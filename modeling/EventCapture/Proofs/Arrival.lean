import EventCapture.Proofs.Shifted
import EventCapture.Proofs.SinkHistory
import Mathlib.Data.List.Sort

/-! The order of arrival in one sink: records that arrive later have later numbers, and neither
their offsets nor their timestamps are earlier, as long as the monotonic clock does not go back.

Timestamps stand still once they would pass the last instant that can be represented. From then on
it is the numbers alone that tell records apart.
-/

set_option autoImplicit false

namespace EventCapture

namespace Instant

theorem cmp_eq_lt_iff {i j : Instant} : i.cmp j = .lt ↔ i < j := by
  simp [cmp, lt_iff, Ordering.then_eq_lt, compare_lt_iff_lt]

theorem eq_iff {i j : Instant} : i = j ↔ i.seconds = j.seconds ∧ i.nanos = j.nanos := by
  obtain ⟨seconds, nanos⟩ := i
  obtain ⟨others, rest⟩ := j
  exact Iff.of_eq (mk.injEq seconds nanos others rest)

theorem cmp_eq_eq_iff {i j : Instant} : i.cmp j = .eq ↔ i = j := by
  simp [cmp, Ordering.then_eq_eq, eq_iff]

theorem lt_or_eq_of_le {i j : Instant} (le : i ≤ j) : i < j ∨ i = j := by
  rw [le_iff] at le
  rw [lt_iff, eq_iff]
  omega

end Instant

namespace Record

theorem cmp_eq_lt_iff {a b : Record} :
    a.cmp b = .lt ↔ a.timestamp < b.timestamp ∨ a.timestamp = b.timestamp ∧ a.seq < b.seq := by
  simp [cmp, Ordering.then_eq_lt, Instant.cmp_eq_lt_iff, Instant.cmp_eq_eq_iff,
    Nat.compare_eq_lt]

theorem cmp_eq_eq_iff {a b : Record} :
    a.cmp b = .eq ↔ a.timestamp = b.timestamp ∧ a.seq = b.seq := by
  simp [cmp, Ordering.then_eq_eq, Instant.cmp_eq_eq_iff]

/-- The order in which records are sorted. -/
def le (a b : Record) : Bool := (a.cmp b).isLE

theorem le_iff {a b : Record} :
    a.le b ↔ a.timestamp < b.timestamp ∨ a.timestamp = b.timestamp ∧ a.seq ≤ b.seq := by
  have either : a.le b ↔ a.cmp b = .lt ∨ a.cmp b = .eq := by
    unfold le
    cases a.cmp b <;> simp
  rw [either, cmp_eq_lt_iff, cmp_eq_eq_iff, Nat.le_iff_lt_or_eq, and_or_left, or_assoc]

theorem le_trans {a b c : Record} (first : a.le b) (second : b.le c) : a.le c := by
  rw [le_iff, Instant.lt_iff, Instant.eq_iff] at *
  omega

theorem le_total (a b : Record) : (a.le b || b.le a) = true := by
  rw [Bool.or_eq_true, le_iff, le_iff]
  simp only [Instant.lt_iff, Instant.eq_iff]
  omega

theorem cmp_eq_gt_iff {a b : Record} : a.cmp b = .gt ↔ b.cmp a = .lt := by
  have upward := cmp_eq_lt_iff (a := a) (b := b)
  have level := cmp_eq_eq_iff (a := a) (b := b)
  rw [cmp_eq_lt_iff]
  simp only [Instant.lt_iff, Instant.eq_iff] at *
  cases order : a.cmp b <;> simp only [order, reduceCtorEq, true_iff, false_iff] at * <;> omega

/-- In a list that is strictly in order no two records compare as equal. -/
theorem eq_of_cmp_eq_eq {records : List Record}
    (ordered : records.Pairwise fun a b => a.cmp b = .lt) {a b : Record} (left : a ∈ records)
    (right : b ∈ records) (same : a.cmp b = .eq) : a = b := by
  have apart : ∀ ⦃a⦄, a ∈ records → ∀ ⦃b⦄, b ∈ records → a.cmp b = .eq → a = b := by
    apply List.Pairwise.forall_of_forall_of_flip
    · exact fun _ _ _ => rfl
    · exact ordered.imp fun before same => by simp [before] at same
    · exact ordered.imp fun before same => by simp [cmp_eq_gt_iff.mpr before] at same
  exact apart left right same

/-- Records that are strictly in order are sorted back into it, however they were shuffled. -/
theorem mergeSort_eq {records shuffled : List Record}
    (ordered : records.Pairwise fun a b => a.cmp b = .lt) (same : shuffled.Perm records) :
    shuffled.mergeSort le = records := by
  have sorted : (shuffled.mergeSort le).Pairwise fun a b => a.le b = true :=
    @List.pairwise_mergeSort _ le (fun a b c => le_trans) le_total shuffled
  have rest : (shuffled.mergeSort le).Perm records := (List.mergeSort_perm shuffled le).trans same
  refine rest.eq_of_pairwise (fun a b left right first second => ?_) sorted
    (ordered.imp fun before => by simp [le, before])
  apply eq_of_cmp_eq_eq ordered (rest.subset left) right
  rw [le_iff, Instant.lt_iff, Instant.eq_iff] at first second
  rw [cmp_eq_eq_iff, Instant.eq_iff]
  omega

/-- One record arrived before another. -/
structure Precedes (a b : Record) : Prop where
  offset : a.offset ≤ b.offset
  timestamp : a.timestamp ≤ b.timestamp
  seq : a.seq < b.seq

theorem Precedes.cmp_eq_lt {a b : Record} (precedes : a.Precedes b) : a.cmp b = .lt := by
  rw [cmp_eq_lt_iff]
  exact (Instant.lt_or_eq_of_le precedes.timestamp).imp_right (⟨·, precedes.seq⟩)

theorem Precedes.not_same {a b : Record} (precedes : a.Precedes b) : a.same b = false := by
  simp [same, Nat.ne_of_lt precedes.seq]

end Record

namespace SinkClock

/-- The wall clock is the shifted start as long as that can be represented, and then stands
still. -/
theorem wall_eq {clock : SinkClock} (low : Instant.least ≤ clock.startedWall) (now : Nat) :
    clock.wall now =
      if clock.offset now ≤ Instant.longestSpan ∧
        (clock.startedWall.later (clock.offset now)).seconds ≤ Instant.greatest.seconds then
        clock.startedWall.later (clock.offset now)
      else Instant.greatest := by
  have after := Instant.le_iff.mp (clock.startedWall.le_later (clock.offset now))
  have before := Instant.le_iff.mp low
  have inside : Instant.least.seconds ≤ (clock.startedWall.later (clock.offset now)).seconds := by
    omega
  simp only [wall, Instant.shift?_eq, Instant.inRange?, inside, true_and, ite_and]
  split
  · split <;> rfl
  · rfl

theorem started_le_wall {clock : SinkClock} (low : Instant.least ≤ clock.startedWall)
    (high : clock.startedWall ≤ Instant.greatest) (now : Nat) :
    clock.startedWall ≤ clock.wall now := by
  rw [wall_eq low]
  split
  · exact clock.startedWall.le_later _
  · exact high

/-- A reading that is not earlier has a time of day that is not earlier, also where one of them or
both are held back. -/
theorem wall_le_wall {clock : SinkClock} (low : Instant.least ≤ clock.startedWall)
    (high : clock.startedWall ≤ Instant.greatest) {now next : Nat} (forward : now ≤ next) :
    clock.wall now ≤ clock.wall next := by
  have offsets : clock.offset now ≤ clock.offset next := Nat.sub_le_sub_right forward _
  have walls := clock.startedWall.later_le_later offsets
  have seconds := Instant.le_iff.mp walls
  rw [wall_eq low, wall_eq low]
  split
  · next inside =>
    split
    · exact walls
    · exact Instant.later_le_greatest high inside.2
  · next outside =>
    -- What is out of range at the earlier reading is so at the later one.
    rw [if_neg (by omega)]
    exact Instant.le_refl _

end SinkClock

/-- The reading of the monotonic clock at which a call records an event. -/
def SinkCall.reading : SinkCall → List Nat
  | .record now _ => [now]
  | _ => []

namespace Sink

/-- A record that a call adds has the next number and the time of the call. -/
theorem mem_added {sink : Sink} {call : SinkCall} {record : Record}
    (member : record ∈ sink.added call) :
    ∃ now ∈ call.reading, ∃ event, record = sink.clock.stamp now sink.nextSeq event := by
  cases call with
  | record now event =>
    simp only [added] at member
    split at member
    · cases member
    · exact ⟨now, List.mem_singleton_self now, event, List.mem_singleton.mp member⟩
  | snapshot | drain | freeze | size | isEmpty | isSealed => cases member

/-- A record that is added some time has a number that was not given before, and the time of one of
the readings. -/
theorem mem_additions {sink : Sink} {calls : List SinkCall} {record : Record}
    (member : record ∈ sink.additions calls) :
    ∃ now ∈ calls.flatMap SinkCall.reading, ∃ seq ≥ sink.nextSeq, ∃ event,
      record = sink.clock.stamp now seq event := by
  induction calls generalizing sink with
  | nil => cases member
  | cons call rest ih =>
    rcases List.mem_append.mp member with here | there
    · obtain ⟨now, reading, event, same⟩ := mem_added here
      exact ⟨now, List.mem_append_left _ reading, sink.nextSeq, Nat.le_refl _, event, same⟩
    · obtain ⟨now, reading, seq, unused, event, same⟩ := ih there
      rw [nextSeq_answer] at unused
      rw [clock_answer] at same
      exact ⟨now, List.mem_append_right _ reading, seq, by omega, event, same⟩

theorem pairwise_added (sink : Sink) (call : SinkCall) :
    (sink.added call).Pairwise Record.Precedes := by
  unfold added
  split
  · split
    · exact .nil
    · exact List.pairwise_singleton _ _
  · exact .nil

/-- Records are added in an order in which each precedes all that come later. -/
theorem pairwise_additions {sink : Sink} (low : Instant.least ≤ sink.clock.startedWall)
    (high : sink.clock.startedWall ≤ Instant.greatest) {calls : List SinkCall}
    (forward : (calls.flatMap SinkCall.reading).Pairwise (· ≤ ·)) :
    (sink.additions calls).Pairwise Record.Precedes := by
  induction calls generalizing sink with
  | nil => exact .nil
  | cons call rest ih =>
    rw [List.flatMap_cons, List.pairwise_append] at forward
    obtain ⟨_, others, after⟩ := forward
    have same := sink.clock_answer call
    have tail := ih (same ▸ low) (same ▸ high) others
    refine List.pairwise_append.mpr ⟨sink.pairwise_added call, tail, fun a new b later => ?_⟩
    obtain ⟨now, here, event, rfl⟩ := mem_added new
    obtain ⟨next, there, seq, unused, other, rfl⟩ := mem_additions later
    -- The call has used up its number before the later one is given.
    have used : 0 < (sink.added call).length := List.length_pos_of_mem new
    rw [nextSeq_answer] at unused
    rw [clock_answer]
    have forward : now ≤ next := after now here next there
    exact ⟨Nat.sub_le_sub_right forward _, SinkClock.wall_le_wall low high forward,
      show sink.nextSeq < seq by omega⟩

/-- Whatever is called on a sink while the monotonic clock does not go back, the order of arrival is
the order of the numbers and of the times, and sorting restores it. -/
theorem accepted_in_order {began : Nat} {wall : Instant} (low : Instant.least ≤ wall)
    (high : wall ≤ Instant.greatest) {calls : List SinkCall}
    (forward : (calls.flatMap SinkCall.reading).Pairwise (· ≤ ·)) :
    let run := (Sink.start began wall).run calls
    let accepted := run.2.flatMap SinkAnswer.taken ++ run.1.records
    (accepted.Pairwise fun a b => a.offset ≤ b.offset ∧ a.timestamp ≤ b.timestamp ∧
        a.cmp b = .lt ∧ b.cmp a = .gt ∧ a.same b = false) ∧
      (∀ record ∈ accepted, wall ≤ record.timestamp ∧ record.cmp record = .eq ∧
        record.same record) ∧
      ∀ chosen : List Record, chosen.Sublist accepted → ∀ shuffled : List Record,
        shuffled.Perm chosen → shuffled.mergeSort Record.le = chosen := by
  intro run accepted
  have whole : accepted = (Sink.start began wall).additions calls :=
    (Sink.start began wall).drained_append_records calls
  have ordered : accepted.Pairwise Record.Precedes := by
    rw [whole]
    exact pairwise_additions low high forward
  refine ⟨ordered.imp fun before => ?_, fun record member => ?_, ?_⟩
  · exact ⟨before.offset, before.timestamp, before.cmp_eq_lt,
      Record.cmp_eq_gt_iff.mpr before.cmp_eq_lt, before.not_same⟩
  · rw [whole] at member
    obtain ⟨now, _, seq, _, event, rfl⟩ := mem_additions member
    refine ⟨SinkClock.started_le_wall low high now, Record.cmp_eq_eq_iff.mpr ⟨rfl, rfl⟩, ?_⟩
    simp [Record.same]
  · intro chosen among shuffled same
    exact Record.mergeSort_eq ((ordered.imp Record.Precedes.cmp_eq_lt).sublist among) same

/-- Records of which the fourth is held back at the last instant by the range of instants, and the
last by the range of spans as well. -/
def lateCalls : List SinkCall :=
  let event := Event.plain .info "app" "late"
  [.record 5 event, .record 7 event, .drain, .record 7 event, .snapshot, .record 100 event,
    .record (Nat.pow 10 25) event]

theorem accepted_in_order_lateCalls :
    let wall : Instant := ⟨8210266876799, 999999990⟩
    let run := (Sink.start 5 wall).run lateCalls
    let accepted := run.2.flatMap SinkAnswer.taken ++ run.1.records
    (Instant.least ≤ wall ∧ wall ≤ Instant.greatest ∧
        (lateCalls.flatMap SinkCall.reading).Pairwise (· ≤ ·)) ∧
      (accepted.Pairwise fun a b => a.offset ≤ b.offset ∧ a.timestamp ≤ b.timestamp ∧
        a.cmp b = .lt ∧ b.cmp a = .gt ∧ a.same b = false) ∧
      accepted.reverse.mergeSort Record.le = accepted ∧
      accepted.map (·.timestamp.nanos) =
        [999999990, 999999992, 999999992, 999999999, 999999999] := by
  intro wall run accepted
  have low : Instant.least ≤ wall := by decide
  have high : wall ≤ Instant.greatest := by decide
  have forward : (lateCalls.flatMap SinkCall.reading).Pairwise (· ≤ ·) := by decide +kernel
  have ordered := @accepted_in_order 5 wall low high lateCalls forward
  exact ⟨⟨low, high, forward⟩, ordered.1,
    ordered.2.2 accepted (List.Sublist.refl _) _ accepted.reverse_perm, by decide +kernel⟩

end Sink

end EventCapture
