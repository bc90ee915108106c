import EventCapture.Text.Padded
import EventCapture.Time.Calendar

/-! Instants of universal time to the nanosecond.

An instant is a second of the count from 1970 and the nanoseconds within it. Nanoseconds of a
thousand million and more lie in a leap second, which is written as second sixty and comes before
the next second of the count. Spans of time are whole numbers of nanoseconds.
-/

set_option autoImplicit false

namespace EventCapture

structure Instant where
  seconds : Int
  nanos : Nat
  deriving DecidableEq, Repr

namespace Instant

def nanosPerSecond : Nat := 1000000000

def secondsPerDay : Int := 86400

/-- The first instant that can be represented, at the start of the year -262143. -/
def least : Instant := ⟨-8334601228800, 0⟩

/-- The last instant that can be represented, at the end of the year 262142. -/
def greatest : Instant := ⟨8210266876799, 999999999⟩

/-- The longest span that can be represented, in nanoseconds: 2^63 - 1 milliseconds. -/
def longestSpan : Nat := 9223372036854775807 * 1000000

/-- An instant outside every leap second. -/
def IsPlain (i : Instant) : Prop := i.nanos < nanosPerSecond

instance (i : Instant) : Decidable i.IsPlain :=
  inferInstanceAs (Decidable (i.nanos < nanosPerSecond))

def cmp (i j : Instant) : Ordering :=
  (compare i.seconds j.seconds).then (compare i.nanos j.nanos)

instance : LT Instant where
  lt i j := i.seconds < j.seconds ∨ i.seconds = j.seconds ∧ i.nanos < j.nanos

instance : LE Instant where
  le i j := i.seconds < j.seconds ∨ i.seconds = j.seconds ∧ i.nanos ≤ j.nanos

instance (i j : Instant) : Decidable (i < j) :=
  inferInstanceAs (Decidable (_ ∨ _))

instance (i j : Instant) : Decidable (i ≤ j) :=
  inferInstanceAs (Decidable (_ ∨ _))

theorem lt_iff {i j : Instant} :
    i < j ↔ i.seconds < j.seconds ∨ i.seconds = j.seconds ∧ i.nanos < j.nanos := Iff.rfl

theorem le_iff {i j : Instant} :
    i ≤ j ↔ i.seconds < j.seconds ∨ i.seconds = j.seconds ∧ i.nanos ≤ j.nanos := Iff.rfl

theorem not_lt {i j : Instant} : ¬ i < j ↔ j ≤ i := by
  rw [lt_iff, le_iff]; omega

theorem not_le {i j : Instant} : ¬ i ≤ j ↔ j < i := by
  rw [lt_iff, le_iff]; omega

theorem le_refl (i : Instant) : i ≤ i := by
  rw [le_iff]; omega

theorem le_trans {i j k : Instant} (first : i ≤ j) (second : j ≤ k) : i ≤ k := by
  rw [le_iff] at *; omega

def total (i : Instant) : Int := i.seconds * nanosPerSecond + i.nanos

def ofTotal (n : Int) : Instant :=
  ⟨n.fdiv nanosPerSecond, (n.fmod nanosPerSecond).toNat⟩

/-- The instant, if its second can be represented. -/
def inRange? (i : Instant) : Option Instant :=
  if least.seconds ≤ i.seconds ∧ i.seconds ≤ greatest.seconds then some i else none

/-- The instant a span later, or earlier for a negative span; none outside the range.

Within a leap second the clock runs on. A span that leaves the leap second forward counts from the
same place in the second before it, and one that leaves it backward from the same place in the
second after it. -/
def shift? (i : Instant) (span : Int) : Option Instant :=
  let wholeSeconds := span.tdiv nanosPerSecond
  let rest := span.tmod nanosPerSecond
  -- outside a leap second the instant is its count of nanoseconds
  if i.nanos < nanosPerSecond then
    (ofTotal (i.total + span)).inRange?
  -- the span leaves the leap second forward
  else if 0 < wholeSeconds ∨ 0 < rest ∧ 2 * (nanosPerSecond : Int) ≤ i.nanos + rest then
    (ofTotal (i.total - nanosPerSecond + span)).inRange?
  -- and here it leaves it backward
  else if wholeSeconds < 0 then
    (ofTotal (i.total + span)).inRange?
  else
    (⟨i.seconds, (i.nanos + rest).toNat⟩ : Instant).inRange?

inductive Fraction where
  | micros
  /-- As many as are exact: none, three, six or nine. -/
  | exact
  deriving DecidableEq, Repr

def fractionText (fraction : Fraction) (nanos : Nat) : String :=
  match fraction with
  | .micros => "." ++ Text.zeroPadded 6 (nanos / 1000)
  | .exact =>
    if nanos = 0 then ""
    else if nanos % 1000000 = 0 then "." ++ Text.zeroPadded 3 (nanos / 1000000)
    else if nanos % 1000 = 0 then "." ++ Text.zeroPadded 6 (nanos / 1000)
    else "." ++ Text.zeroPadded 9 nanos

/-- Four digits, with a sign when the year lies outside 0 to 9999. -/
def yearText (year : Int) : String :=
  if 0 ≤ year ∧ year ≤ 9999 then Text.zeroPadded 4 year.toNat
  else (if year < 0 then "-" else "+") ++ Text.zeroPadded 4 year.natAbs

def text (i : Instant) (fraction : Fraction) (zone : String) : String :=
  let date := Time.Date.ofDays (i.seconds.fdiv secondsPerDay)
  let second := (i.seconds.fmod secondsPerDay).toNat
  let leap := i.nanos / nanosPerSecond
  yearText date.year ++ "-" ++ Text.zeroPadded 2 date.month ++ "-" ++ Text.zeroPadded 2 date.day ++
    "T" ++ Text.zeroPadded 2 (second / 3600) ++ ":" ++ Text.zeroPadded 2 (second / 60 % 60) ++
    ":" ++ Text.zeroPadded 2 (second % 60 + leap) ++
    fractionText fraction (i.nanos % nanosPerSecond) ++ zone

def reportText (i : Instant) : String := i.text .micros "Z"

def stampText (i : Instant) : String := i.text .exact "Z"

def offsetText (i : Instant) : String := i.text .exact "+00:00"

end Instant

end EventCapture
