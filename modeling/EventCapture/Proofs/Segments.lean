import EventCapture.Proofs.SinkCalls

/-! Segments of a sink.

A segment is put away when its length is found equal to the length of a full one, so that a segment
that were ever longer would grow without end. What keeps it from that is that the open segment is
shorter before every call. The size and the numbers are kept apart from the records; both agree with
them because a record comes in together with one more in the size and with the next number, and all
records go out together with the whole size.
-/

set_option autoImplicit false

namespace EventCapture.Sink

/-- How many records stand where. -/
structure LaidOut (sink : Sink) : Prop where
  short : sink.partFull.length < segmentLength
  filled : ∀ segment ∈ sink.full, segment.length = segmentLength
  measured : sink.size = segmentLength * sink.full.length + sink.partFull.length

/-- The full segments, the oldest first, and then the open one hold the last numbers that were
given, one after the other. -/
structure Numbered (sink : Sink) : Prop where
  within : sink.size ≤ sink.nextSeq
  consecutive : (sink.full.reverse.flatten ++ sink.partFull).map Record.seq =
    List.range' (sink.nextSeq - sink.size) sink.size

structure Segmented (sink : Sink) : Prop extends LaidOut sink, Numbered sink

variable {sink : Sink}

theorem segmentLength_pos : 0 < segmentLength := by decide

theorem segmented_start (now : Nat) (wall : Instant) : (start now wall).Segmented where
  short := segmentLength_pos
  filled := List.forall_mem_nil _
  measured := rfl
  within := Nat.le_refl 0
  consecutive := rfl

/-- The open segment is one short of a full one at most, so that with one more record it is full or
still short. -/
theorem LaidOut.push (laid : sink.LaidOut) (record : Record) : (sink.push record).LaidOut := by
  have short := laid.short
  have measured := laid.measured
  have grown : (sink.partFull ++ [record]).length = sink.partFull.length + 1 := List.length_append
  simp only [Sink.push]
  split
  · next full =>
    refine ⟨segmentLength_pos, List.forall_mem_cons.mpr ⟨full, laid.filled⟩, ?_⟩
    simp only [List.length_cons, List.length_nil, Nat.mul_succ]
    omega
  · next room =>
    refine ⟨?_, laid.filled, ?_⟩ <;> dsimp only <;> omega

theorem LaidOut.record (laid : sink.LaidOut) (now : Nat) (event : Event) :
    (sink.record now event).1.LaidOut := by
  unfold Sink.record
  split
  · exact laid
  · have counted : LaidOut { sink with nextSeq := sink.nextSeq + 1 } := ⟨laid.1, laid.2, laid.3⟩
    exact counted.push _

/-- The record that comes in has the number behind all others. -/
theorem Numbered.record (numbered : sink.Numbered) (now : Nat) (event : Event) :
    (sink.record now event).1.Numbered := by
  obtain ⟨within, consecutive⟩ := numbered
  unfold Sink.record
  split
  · exact ⟨within, consecutive⟩
  · have last : sink.nextSeq - sink.size + sink.size = sink.nextSeq := Nat.sub_add_cancel within
    constructor
    · rw [size_push, nextSeq_push]
      exact Nat.succ_le_succ within
    · change (Sink.records _).map Record.seq = _
      rw [records_push, size_push, nextSeq_push, Nat.add_sub_add_right, List.range'_1_concat, last,
        List.map_append, ← consecutive]
      rfl

/-- A sink that gives its records away is empty and goes on with the next number. -/
theorem Segmented.drain (kept : sink.Segmented) : sink.drain.1.Segmented := by
  unfold Sink.drain
  split
  · exact kept
  · exact ⟨⟨segmentLength_pos, List.forall_mem_nil _, rfl⟩, ⟨Nat.zero_le _, rfl⟩⟩

theorem Segmented.answer (kept : sink.Segmented) (call : SinkCall) :
    (sink.answer call).1.Segmented := by
  cases call with
  | record now event => exact ⟨kept.toLaidOut.record now event, kept.toNumbered.record now event⟩
  | drain => exact kept.drain
  | freeze => exact ⟨⟨kept.short, kept.filled, kept.measured⟩, ⟨kept.within, kept.consecutive⟩⟩
  | snapshot | size | isEmpty | isSealed => exact kept

theorem Segmented.run (kept : sink.Segmented) (calls : List SinkCall) :
    (sink.run calls).1.Segmented := by
  induction calls generalizing sink with
  | nil => exact kept
  | cons call rest ih => exact ih (kept.answer call)

/-- Whatever is called on a new sink, its open segment is shorter than a full one and every other
segment is full, the size is what all of them hold together, and read from the oldest one on they
hold consecutive numbers that end before the next one. -/
theorem segmented_after_calls (now : Nat) (wall : Instant) (calls : List SinkCall) :
    ((start now wall).run calls).1.Segmented :=
  (segmented_start now wall).run calls

example :
    let call := SinkCall.record 0 (Event.plain .info "app" "again")
    let sink := ((start 0 ⟨0, 0⟩).run (List.replicate 3 call ++ .drain :: List.replicate 130 call)).1
    sink.full.length = 2 ∧ sink.partFull.length = 2 ∧ sink.size = 130 ∧ sink.nextSeq = 133 := by
  decide +kernel

end EventCapture.Sink
