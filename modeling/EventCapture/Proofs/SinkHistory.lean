import EventCapture.Proofs.Operations
import EventCapture.Proofs.SinkCalls

/-! The history of a sink: everything that it ever accepted, drained since or still kept.

A call that is answered moves records from what is kept to what was drained, or adds one record, or
does neither. So the history only grows, one record at a time, and the place of a record in it is
the number that it carries. A sink can be reached directly or through routes, as often as it is
attached; each way leads to the same calls, and a transcript of them is kept beside the world.
-/

set_option autoImplicit false

namespace EventCapture

/-- The records that an answer hands out for good. -/
def SinkAnswer.taken : SinkAnswer → List Record
  | .drained records => records
  | _ => []

/-- A call on a sink, and what the sink answered. -/
structure SinkEntry where
  call : SinkCall
  answer : SinkAnswer
  deriving DecidableEq, Repr

namespace SinkEntry

/-- The event that was accepted by this call, if one was. -/
def gained : SinkEntry → List Event
  | ⟨.record _ event, .accepted true⟩ => [event]
  | _ => []

/-- What was drained, in the order of the draining. -/
def drained (entries : List SinkEntry) : List Record := entries.flatMap (·.answer.taken)

/-- The events that were accepted, in the order of their acceptance. -/
def accepted (entries : List SinkEntry) : List Event := entries.flatMap gained

/-- Whether a call has frozen the sink. -/
def froze (entries : List SinkEntry) : Bool := entries.any (·.call == .freeze)

end SinkEntry

namespace Sink

/-- The record that a call adds, if it adds one. -/
def added (sink : Sink) : SinkCall → List Record
  | .record now event => if sink.sealed then [] else [sink.clock.stamp now sink.nextSeq event]
  | _ => []

/-- The records that calls add, one after the other. -/
def additions (sink : Sink) : List SinkCall → List Record
  | [] => []
  | call :: rest => sink.added call ++ additions (sink.answer call).1 rest

theorem run_append (sink : Sink) (calls more : List SinkCall) :
    sink.run (calls ++ more) =
      (((sink.run calls).1.run more).1, (sink.run calls).2 ++ ((sink.run calls).1.run more).2) := by
  induction calls generalizing sink with
  | nil => rfl
  | cons call rest ih => simp only [List.cons_append, run, ih]

theorem clock_answer (sink : Sink) (call : SinkCall) :
    (sink.answer call).1.clock = sink.clock := by
  cases call with
  | record now event =>
    simp only [answer, record]
    split
    · rfl
    · exact clock_push _ _
  | drain =>
    simp only [answer, drain]
    split <;> rfl
  | snapshot | freeze | size | isEmpty | isSealed => rfl

theorem sealed_answer (sink : Sink) (call : SinkCall) :
    (sink.answer call).1.sealed = (sink.sealed || call == .freeze) := by
  cases call with
  | record now event => simp [answer, sealed_record]
  | drain => simp [answer, sealed_drain]
  | freeze => simp [answer, freeze]
  | snapshot | size | isEmpty | isSealed => simp [answer]

theorem nextSeq_answer (sink : Sink) (call : SinkCall) :
    (sink.answer call).1.nextSeq = sink.nextSeq + (sink.added call).length := by
  cases call with
  | record now event =>
    simp only [answer, record, added]
    split
    · rfl
    · exact nextSeq_push _ _
  | drain =>
    simp only [answer, drain]
    split <;> rfl
  | snapshot | freeze | size | isEmpty | isSealed => rfl

/-- A call hands out nothing but what was kept, and keeps all that it does not hand out. -/
theorem taken_append_records (sink : Sink) (call : SinkCall) :
    (sink.answer call).2.taken ++ (sink.answer call).1.records =
      sink.records ++ sink.added call := by
  cases call with
  | record now event =>
    simp only [answer, SinkAnswer.taken, added, records_record, List.nil_append]
    split <;> simp
  | drain =>
    simp only [answer, records_drain, added, List.append_nil]
    unfold drain
    split <;> simp [SinkAnswer.taken]
  | snapshot | freeze | size | isEmpty | isSealed => exact (List.append_nil _).symm

/-- What was drained in a run and what is kept at its end is what was kept at first, and what the
calls have added. -/
theorem drained_append_records (sink : Sink) (calls : List SinkCall) :
    (sink.run calls).2.flatMap SinkAnswer.taken ++ (sink.run calls).1.records =
      sink.records ++ sink.additions calls := by
  induction calls generalizing sink with
  | nil => simp [run, additions]
  | cons call rest ih =>
    simp only [run, additions, List.flatMap_cons, List.append_assoc, ih]
    rw [← List.append_assoc, taken_append_records, List.append_assoc]

/-- No number is left out, and none is given twice. -/
theorem seq_additions (sink : Sink) (calls : List SinkCall) :
    (sink.additions calls).map Record.seq =
      List.range' sink.nextSeq (sink.additions calls).length := by
  induction calls generalizing sink with
  | nil => rfl
  | cons call rest ih =>
    have first : (sink.added call).map Record.seq =
        List.range' sink.nextSeq (sink.added call).length := by
      unfold added
      split
      · split <;> rfl
      · rfl
    simp only [additions, List.map_append, List.length_append, ih, first, nextSeq_answer]
    rw [List.range'_append_1]

theorem sealed_run (sink : Sink) (calls : List SinkCall) :
    (sink.run calls).1.sealed = (sink.sealed || calls.any (· == .freeze)) := by
  induction calls generalizing sink with
  | nil => simp [run]
  | cons call rest ih => simp only [run, ih, sealed_answer, List.any_cons, Bool.or_assoc]

/-- A record is answered by whether the sink is open. -/
theorem answer_record (sink : Sink) (now : Nat) (event : Event) :
    (sink.answer (.record now event)).2 = .accepted !sink.sealed := by
  simp only [answer, record]
  split <;> simp_all

/-- A sink that does not accept an event stays as it is. -/
theorem answer_record_of_sealed {sink : Sink} (frozen : sink.sealed = true) (now : Nat)
    (event : Event) : (sink.answer (.record now event)).1 = sink := by
  simp only [answer, record_of_sealed frozen]

theorem length_answers (sink : Sink) (calls : List SinkCall) :
    (sink.run calls).2.length = calls.length := by
  induction calls generalizing sink with
  | nil => rfl
  | cons call rest ih => simp [run, ih]

/-! ### Transcripts -/

/-- One sink becomes another by calls that are answered as a transcript says. -/
def Replays (before : Sink) (entries : List SinkEntry) (after : Sink) : Prop :=
  before.run (entries.map SinkEntry.call) = (after, entries.map SinkEntry.answer)

theorem Replays.refl (sink : Sink) : Replays sink [] sink := rfl

theorem Replays.single (sink : Sink) (call : SinkCall) :
    Replays sink [⟨call, (sink.answer call).2⟩] (sink.answer call).1 := rfl

theorem Replays.trans {first middle last : Sink} {entries more : List SinkEntry}
    (a : Replays first entries middle) (b : Replays middle more last) :
    Replays first (entries ++ more) last := by
  unfold Replays at *
  rw [List.map_append, List.map_append, run_append, a]
  simp only [b]

/-- A transcript can be cut at every place. -/
theorem Replays.cut {first last : Sink} {entries more : List SinkEntry}
    (whole : Replays first (entries ++ more) last) :
    ∃ middle, Replays first entries middle ∧ Replays middle more last := by
  unfold Replays at *
  rw [List.map_append, List.map_append, run_append, Prod.mk.injEq] at whole
  have parts := List.append_inj whole.2 (by simp [length_answers])
  exact ⟨_, Prod.ext rfl parts.1, Prod.ext whole.1 parts.2⟩

/-- The first call of a transcript is answered as it says, and the others after it. -/
theorem Replays.uncons {first last : Sink} {entry : SinkEntry} {more : List SinkEntry}
    (whole : Replays first (entry :: more) last) :
    (first.answer entry.call).2 = entry.answer ∧
      Replays (first.answer entry.call).1 more last := by
  simp only [Replays, List.map_cons, run, Prod.mk.injEq, List.cons.injEq] at whole
  exact ⟨whole.2.1, Prod.ext whole.1 whole.2.2⟩

theorem Replays.sealed {before after : Sink} {entries : List SinkEntry}
    (replays : Replays before entries after) :
    after.sealed = (before.sealed || SinkEntry.froze entries) := by
  have sealed := before.sealed_run (entries.map SinkEntry.call)
  rw [replays, List.any_map] at sealed
  exact sealed

/-- What a transcript accepts is what it adds to the history. -/
theorem Replays.accepted {before after : Sink} {entries : List SinkEntry}
    (replays : Replays before entries after) :
    SinkEntry.accepted entries =
      (before.additions (entries.map SinkEntry.call)).map Record.event := by
  induction entries generalizing before with
  | nil => rfl
  | cons entry rest ih =>
    obtain ⟨call, answer⟩ := entry
    obtain ⟨answered, others⟩ := replays.uncons
    have tail := ih others
    have head : SinkEntry.gained ⟨call, answer⟩ = (before.added call).map Record.event := by
      obtain rfl : (before.answer call).2 = answer := answered
      cases call with
      | record now event =>
        rw [answer_record, added]
        cases before.sealed <;> rfl
      | snapshot | drain | freeze | size | isEmpty | isSealed => rfl
    simp only [List.map_cons, additions, List.map_append, ← head, ← tail]
    rfl

/-- The history of a new sink: what was accepted, in the order of acceptance, numbered from zero. -/
theorem Replays.history {began : Nat} {wall : Instant} {after : Sink} {entries : List SinkEntry}
    (replays : Replays (start began wall) entries after) :
    SinkEntry.drained entries ++ after.records =
      (start began wall).additions (entries.map SinkEntry.call) := by
  have history := (start began wall).drained_append_records (entries.map SinkEntry.call)
  rw [replays, List.flatMap_map] at history
  exact history

end Sink

end EventCapture
