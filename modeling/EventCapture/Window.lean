import EventCapture.Failure

/-! Time windows: from a start, which belongs to the window, to a stop, which does not. A bound
that is missing leaves its side open. -/

set_option autoImplicit false

namespace EventCapture

structure Window where
  start : Option Instant
  stop : Option Instant
  deriving DecidableEq, Repr

namespace Window

def unbounded : Window := ⟨none, none⟩

/-- At or after an instant. -/
def since (start : Instant) : Window := ⟨some start, none⟩

/-- Strictly before an instant. -/
def before (stop : Instant) : Window := ⟨none, some stop⟩

/-- At or after one instant and strictly before another, which may not come first. -/
def between (start stop : Instant) : Except Fault Window :=
  if stop < start then .error (.invertedWindow start stop) else .ok ⟨some start, some stop⟩

/-- No further from an instant than the length of a span, both ends included. A bound outside the
range of instants is left open. -/
def around (center : Instant) (span : Int) : Window :=
  let reach : Int := span.natAbs
  -- a window excludes its end, so that the end is one nanosecond further
  ⟨center.shift? (-reach), (center.shift? reach).bind (·.shift? 1)⟩

def contains (window : Window) (i : Instant) : Bool :=
  window.start.all (fun start => decide (start ≤ i)) &&
    window.stop.all (fun stop => decide (i < stop))

/-- Both bounds, two dots for one that is missing. -/
def text (window : Window) : String :=
  let bound (i : Option Instant) : String := i.elim ".." Instant.reportText
  "[" ++ bound window.start ++ ", " ++ bound window.stop ++ ")"

theorem contains_iff {window : Window} {i : Instant} :
    window.contains i = true ↔
      (∀ start, window.start = some start → start ≤ i) ∧
        ∀ stop, window.stop = some stop → i < stop := by
  obtain ⟨start, stop⟩ := window
  cases start <;> cases stop <;> simp [contains]

theorem between_eq_error_iff {start stop : Instant} {fault : Fault} :
    between start stop = .error fault ↔ stop < start ∧ fault = .invertedWindow start stop := by
  unfold between
  split <;> simp_all [eq_comm]

end Window

end EventCapture
