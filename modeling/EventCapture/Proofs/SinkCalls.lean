import EventCapture.Sink.Plain

/-! Sequences of calls on one sink, and what the sink answers.

A sink that keeps its records in segments cannot be told from a plain one: whatever is called on a
new sink, and however often, both give the same answers. What carries the comparison is that the
size, which is counted apart from the records, is always their number.
-/

set_option autoImplicit false

namespace EventCapture

/-- What can be called on a sink. -/
inductive SinkCall where
  /-- Record an event at a reading of the monotonic clock. -/
  | record (now : Nat) (event : Event)
  | snapshot
  | drain
  | freeze
  | size
  | isEmpty
  | isSealed
  deriving DecidableEq, Repr

/-- What a sink answers to a call. -/
inductive SinkAnswer where
  /-- Whether the event was accepted. -/
  | accepted (yes : Bool)
  | snapshot (snapshot : Snapshot)
  | drained (records : List Record)
  | size (size : Nat)
  | isEmpty (yes : Bool)
  | isSealed (yes : Bool)
  deriving DecidableEq, Repr

namespace PlainSink

/-- Answer one call. -/
def answer (sink : PlainSink) : SinkCall → PlainSink × SinkAnswer
  | .record now event =>
    let (sink, yes) := sink.record now event
    (sink, .accepted yes)
  | .snapshot => (sink, .snapshot sink.snapshot)
  | .drain =>
    let (sink, records) := sink.drain
    (sink, .drained records)
  | .freeze =>
    let (sink, snapshot) := sink.freeze
    (sink, .snapshot snapshot)
  | .size => (sink, .size sink.records.length)
  | .isEmpty => (sink, .isEmpty sink.records.isEmpty)
  | .isSealed => (sink, .isSealed sink.sealed)

/-- Answer calls one after the other. -/
def run (sink : PlainSink) : List SinkCall → PlainSink × List SinkAnswer
  | [] => (sink, [])
  | call :: rest =>
    let (sink, answer) := sink.answer call
    let (sink, answers) := run sink rest
    (sink, answer :: answers)

end PlainSink

namespace Sink

/-- Answer one call. -/
def answer (sink : Sink) : SinkCall → Sink × SinkAnswer
  | .record now event =>
    let (sink, yes) := sink.record now event
    (sink, .accepted yes)
  | .snapshot => (sink, .snapshot sink.snapshot)
  | .drain =>
    let (sink, records) := sink.drain
    (sink, .drained records)
  | .freeze =>
    let (sink, snapshot) := sink.freeze
    (sink, .snapshot snapshot)
  | .size => (sink, .size sink.size)
  | .isEmpty => (sink, .isEmpty sink.isEmpty)
  | .isSealed => (sink, .isSealed sink.sealed)

/-- Answer calls one after the other. -/
def run (sink : Sink) : List SinkCall → Sink × List SinkAnswer
  | [] => (sink, [])
  | call :: rest =>
    let (sink, answer) := sink.answer call
    let (sink, answers) := run sink rest
    (sink, answer :: answers)

/-- The size is the number of records kept. -/
def Counted (sink : Sink) : Prop := sink.size = sink.records.length

theorem counted_start (now : Nat) (wall : Instant) : (start now wall).Counted := rfl

theorem size_push (sink : Sink) (record : Record) : (sink.push record).size = sink.size + 1 := by
  simp only [push]
  split <;> rfl

/-- A roll-over moves records, but the count goes up by one like the number of records. -/
theorem Counted.push {sink : Sink} (counted : sink.Counted) (record : Record) :
    (sink.push record).Counted := by
  have size : sink.size = sink.records.length := counted
  rw [Counted, size_push, records_push, List.length_append, size]
  rfl

theorem Counted.record {sink : Sink} (counted : sink.Counted) (now : Nat) (event : Event) :
    (sink.record now event).1.Counted := by
  unfold Sink.record
  split
  · exact counted
  · have numbered : Counted { sink with nextSeq := sink.nextSeq + 1 } := counted
    exact numbered.push _

theorem Counted.drain {sink : Sink} (counted : sink.Counted) : sink.drain.1.Counted := by
  unfold Sink.drain
  split
  · exact counted
  · rfl

theorem Counted.answer {sink : Sink} (counted : sink.Counted) (call : SinkCall) :
    (sink.answer call).1.Counted := by
  cases call with
  | record now event => exact counted.record now event
  | drain => exact counted.drain
  | snapshot | freeze | size | isEmpty | isSealed => exact counted

theorem Counted.isEmpty {sink : Sink} (counted : sink.Counted) :
    sink.isEmpty = sink.records.isEmpty := by
  have size : sink.size = sink.records.length := counted
  rw [Sink.isEmpty, size]
  cases sink.records <;> rfl

/-- One call leaves behind the plain sink that the same call leaves, with the same answer. -/
theorem Counted.answer_plain {sink : Sink} (counted : sink.Counted) (call : SinkCall) :
    ((sink.answer call).1.plain, (sink.answer call).2) = sink.plain.answer call := by
  cases call with
  | record now event =>
    have same := plain_record sink now event
    simp only [Sink.answer, PlainSink.answer, ← same]
  | snapshot => rfl
  | drain =>
    have same := plain_drain sink
    simp only [Sink.answer, PlainSink.answer, ← same]
  | freeze => rfl
  | size =>
    have size : sink.size = sink.records.length := counted
    simp only [Sink.answer, PlainSink.answer, size]
    rfl
  | isEmpty =>
    simp only [Sink.answer, PlainSink.answer, counted.isEmpty]
    rfl
  | isSealed => rfl

theorem Counted.run_plain {sink : Sink} (counted : sink.Counted) (calls : List SinkCall) :
    ((sink.run calls).1.plain, (sink.run calls).2) = sink.plain.run calls := by
  induction calls generalizing sink with
  | nil => rfl
  | cons call rest ih =>
    have first := counted.answer_plain call
    have others := ih (counted.answer call)
    simp only [Sink.run, PlainSink.run, ← first, ← others]

/-- Whatever is called on a new sink, every answer is that of a plain sink. -/
theorem answers_eq_plain_answers (now : Nat) (wall : Instant) (calls : List SinkCall) :
    ((start now wall).run calls).2 = ((PlainSink.start now wall).run calls).2 := by
  have same := (counted_start now wall).run_plain calls
  rw [plain_start] at same
  exact congrArg Prod.snd same

end Sink

end EventCapture
