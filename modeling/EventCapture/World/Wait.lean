import EventCapture.World.Sessions

/-! Waiting for an event. A wait looks at what a session has captured, sleeps, and looks again,
until there is a match or the time is up. What others do meanwhile is given as changes of the world,
each with the time at which it is due. -/

set_option autoImplicit false

namespace EventCapture

/-- Something that others will do, so many nanoseconds after the wait has begun. -/
structure Due (α : Type) where
  delay : Nat
  act : World → World × α

inductive Poll where
  | found (record : Record)
  | remaining (nanos : Nat)
  /-- No match, and none can come in time. -/
  | over
  deriving DecidableEq, Repr

structure Waited (α : Type) where
  result : Except Failure Record
  /-- Nanoseconds from begin to end. -/
  elapsed : Nat
  sleeps : Nat
  during : List α
  /-- What was not yet due. -/
  left : List (Due α)

/-- The same end, after one more sleep in front of all others. -/
def Waited.afterSleep {α : Type} (results : List α) (waited : Waited α) : Waited α :=
  { waited with sleeps := waited.sleeps + 1, during := results ++ waited.during }

namespace World

/-- Look for a match. A closed session can gain nothing more. -/
def poll (w : World) (ref : SessionRef) (filter : Filter) (policy : WaitPolicy) (began : Nat) :
    Poll :=
  match (w.events ref).records.find? filter.passes with
  | some record => .found record
  | none =>
    let passed := w.elapsed - began
    if (w.session? ref).all Session.isClosed || policy.timeout ≤ passed then .over
    else .remaining (policy.timeout - passed)

/-- Sleep until a reading of the clock, while others do what is due by then. -/
def sleepUntil {α : Type} (began wake : Nat) : List (Due α) → World → World × List α × List (Due α)
  | [], w => (w.advanceTo wake, [], [])
  | due :: rest, w =>
    if began + due.delay ≤ wake then
      let (w, result) := due.act (w.advanceTo (began + due.delay))
      let (w, results, left) := sleepUntil began wake rest w
      (w, result :: results, left)
    else
      let (w, results, left) := sleepUntil began wake rest w
      (w, results, due :: left)

/-- The end of a wait without a match: a failure that shows what was captured, and its report. -/
def waitExpired (w : World) (ref : SessionRef) (filter : Filter) (began : Nat) :
    World × Failure :=
  let view := w.sessionView ref
  let millis := wholeMillis (w.elapsed - began)
  let failure := Failure.timeout filter.text millis view.report
  let idField := (w.session? ref).toList.map Session.idField
  (w.trace (Session.waiting.failed failure millis idField), failure)

def waitRounds {α : Type} (ref : SessionRef) (filter : Filter) (policy : WaitPolicy)
    (began : Nat) : Nat → World → List (Due α) → World × Waited α
  | 0, w, others =>
    -- out of rounds, which a wait with `roundsEnough` never is
    let (w, failure) := w.waitExpired ref filter began
    (w, ⟨.error failure, w.elapsed - began, 0, [], others⟩)
  | rounds + 1, w, others =>
    match w.poll ref filter policy began with
    | .found record => (w, ⟨.ok record, w.elapsed - began, 0, [], others⟩)
    | .over =>
      let (w, failure) := w.waitExpired ref filter began
      (w, ⟨.error failure, w.elapsed - began, 0, [], others⟩)
    | .remaining nanos =>
      let (w, results, others) := sleepUntil began (w.elapsed + policy.sleepFor nanos) others w
      let (w, waited) := waitRounds ref filter policy began rounds w others
      (w, waited.afterSleep results)

/-- More rounds than a wait can have: every sleep takes a millisecond or more. -/
def roundsEnough (policy : WaitPolicy) : Nat := policy.timeout / WaitPolicy.nanosPerMilli + 2

def waitFor {α : Type} (w : World) (ref : SessionRef) (filter : Filter) (policy : WaitPolicy)
    (others : List (Due α)) : World × Waited α :=
  waitRounds ref filter policy w.elapsed (roundsEnough policy) w others

end World

end EventCapture
