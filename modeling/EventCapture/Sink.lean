import EventCapture.Snapshot

/-! Sinks: where events become records.

A sink gives every event it accepts the next number of its sequence and a time, and keeps the
record until it is drained. A sealed sink is frozen: it accepts nothing more and keeps what it has.

Records are kept in segments of a fixed length. A full segment is never changed again, and only the
last one, still open, grows.
-/

set_option autoImplicit false

namespace EventCapture

/-- A wall clock that is read once and then advanced by the time that has passed. -/
structure SinkClock where
  /-- Nanoseconds on the monotonic clock at the start. -/
  startedAt : Nat
  startedWall : Instant
  deriving DecidableEq, Repr

namespace SinkClock

def offset (clock : SinkClock) (now : Nat) : Nat := now - clock.startedAt

/-- The time of day at a reading of the monotonic clock, held at the last representable instant
when it would pass it. -/
def wall (clock : SinkClock) (now : Nat) : Instant :=
  let elapsed := clock.offset now
  if elapsed ≤ Instant.longestSpan then
    (clock.startedWall.shift? elapsed).getD Instant.greatest
  else Instant.greatest

/-- The record of an event that arrives now as the one with this number. -/
def stamp (clock : SinkClock) (now seq : Nat) (event : Event) : Record :=
  ⟨seq, clock.wall now, clock.offset now, event⟩

end SinkClock

structure Sink where
  clock : SinkClock
  /-- Full segments, the newest first. -/
  full : List (List Record)
  /-- The segment that still grows. -/
  partFull : List Record
  size : Nat
  nextSeq : Nat
  sealed : Bool
  deriving DecidableEq, Repr

namespace Sink

def segmentLength : Nat := 64

def start (now : Nat) (wall : Instant) : Sink :=
  ⟨⟨now, wall⟩, [], [], 0, 0, false⟩

/-- Everything kept, in order of arrival. -/
def records (sink : Sink) : List Record :=
  sink.full.reverse.flatten ++ sink.partFull

/-- Keep one more record; a segment that is full is put away. -/
def push (sink : Sink) (record : Record) : Sink :=
  let grown := sink.partFull ++ [record]
  -- a full segment is never looked at again until a reader joins all of them
  if grown.length = segmentLength then
    { sink with full := grown :: sink.full, partFull := [], size := sink.size + 1 }
  else { sink with partFull := grown, size := sink.size + 1 }

def record (sink : Sink) (now : Nat) (event : Event) : Sink × Bool :=
  if sink.sealed then (sink, false)
  else
    ({ sink with nextSeq := sink.nextSeq + 1 }.push (sink.clock.stamp now sink.nextSeq event), true)

def snapshot (sink : Sink) : Snapshot := ⟨sink.records, sink.sealed⟩

/-- Take out everything kept. A sealed sink gives nothing away. -/
def drain (sink : Sink) : Sink × List Record :=
  if sink.sealed then (sink, [])
  else ({ sink with full := [], partFull := [], size := 0 }, sink.records)

def freeze (sink : Sink) : Sink × Snapshot :=
  ({ sink with sealed := true }, ⟨sink.records, true⟩)

def isEmpty (sink : Sink) : Bool := sink.size == 0

/-- Whether or not a segment becomes full, one more record stands at the end of the sequence. -/
theorem records_push (sink : Sink) (record : Record) :
    (sink.push record).records = sink.records ++ [record] := by
  simp only [push, records]
  split <;> simp

theorem records_record (sink : Sink) (now : Nat) (event : Event) :
    (sink.record now event).1.records =
      if sink.sealed then sink.records
      else sink.records ++ [sink.clock.stamp now sink.nextSeq event] := by
  unfold record
  split
  · rfl
  · exact records_push { sink with nextSeq := sink.nextSeq + 1 } _

theorem records_drain (sink : Sink) :
    sink.drain.1.records = if sink.sealed then sink.records else [] := by
  unfold drain
  split <;> simp [records]

theorem records_freeze (sink : Sink) : sink.freeze.1.records = sink.records := rfl

end Sink

end EventCapture
