import EventCapture.Sink

/-! Plain sinks: what a sink does, without a say in how the records are kept. The state is one list
of records in order of arrival, the next number, and whether the sequence is frozen. -/

set_option autoImplicit false

namespace EventCapture

structure PlainSink where
  clock : SinkClock
  records : List Record
  nextSeq : Nat
  sealed : Bool
  deriving DecidableEq, Repr

namespace PlainSink

def start (now : Nat) (wall : Instant) : PlainSink := ⟨⟨now, wall⟩, [], 0, false⟩

def record (sink : PlainSink) (now : Nat) (event : Event) : PlainSink × Bool :=
  if sink.sealed then (sink, false)
  else
    ({ sink with
        records := sink.records ++ [sink.clock.stamp now sink.nextSeq event]
        nextSeq := sink.nextSeq + 1 }, true)

def snapshot (sink : PlainSink) : Snapshot := ⟨sink.records, sink.sealed⟩

def drain (sink : PlainSink) : PlainSink × List Record :=
  if sink.sealed then (sink, []) else ({ sink with records := [] }, sink.records)

def freeze (sink : PlainSink) : PlainSink × Snapshot :=
  ({ sink with sealed := true }, ⟨sink.records, true⟩)

end PlainSink

namespace Sink

def plain (sink : Sink) : PlainSink := ⟨sink.clock, sink.records, sink.nextSeq, sink.sealed⟩

theorem plain_start (now : Nat) (wall : Instant) :
    (start now wall).plain = PlainSink.start now wall := rfl

theorem clock_push (sink : Sink) (record : Record) : (sink.push record).clock = sink.clock := by
  simp only [push]
  split <;> rfl

theorem nextSeq_push (sink : Sink) (record : Record) :
    (sink.push record).nextSeq = sink.nextSeq := by
  simp only [push]
  split <;> rfl

theorem sealed_push (sink : Sink) (record : Record) : (sink.push record).sealed = sink.sealed := by
  simp only [push]
  split <;> rfl

/-- Putting a record away in segments touches nothing but the records. -/
theorem plain_push (sink : Sink) (record : Record) :
    (sink.push record).plain = { sink.plain with records := sink.records ++ [record] } := by
  simp only [plain, clock_push, nextSeq_push, sealed_push, records_push]

theorem plain_record (sink : Sink) (now : Nat) (event : Event) :
    ((sink.record now event).1.plain, (sink.record now event).2) =
      sink.plain.record now event := by
  unfold record PlainSink.record
  by_cases frozen : sink.sealed = true
  · simp [plain, frozen]
  · rw [if_neg frozen, if_neg (show ¬ sink.plain.sealed = true from frozen), plain_push]
    rfl

theorem plain_drain (sink : Sink) :
    (sink.drain.1.plain, sink.drain.2) = sink.plain.drain := by
  unfold drain PlainSink.drain
  by_cases frozen : sink.sealed = true <;> simp [plain, frozen, records]

theorem plain_freeze (sink : Sink) :
    (sink.freeze.1.plain, sink.freeze.2) = sink.plain.freeze := rfl

theorem snapshot_plain (sink : Sink) : sink.snapshot = sink.plain.snapshot := rfl

end Sink

end EventCapture
