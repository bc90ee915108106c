import EventCapture.Proofs.SinkHistory
import EventCapture.Proofs.Tables

/-! Drains partition the history of a sink.

Several hands may reach one sink in a world: whoever holds it, and every router that has a route to
it, which may be attached there more than once. Beside the world a transcript is kept of the calls
that arrive at the sink, with what it answers to each. Whatever is done, the transcript is one run
of calls on a single sink, so that all that is known of such runs holds of it.
-/

set_option autoImplicit false

namespace EventCapture

namespace World

theorem record_eq_not_sealed {w : World} {id : SinkId} {sink : Sink}
    (found : w.sink? id = some sink) (event : Event) : (w.record id event).2 = !sink.sealed := by
  simp only [record, found, Sink.record]
  split <;> simp_all

/-- A frozen sink that is called to record leaves the whole world as it is. -/
theorem record_of_sealed {w : World} {id : SinkId} {sink : Sink} (found : w.sink? id = some sink)
    (event : Event) (frozen : sink.sealed = true) : (w.record id event).1 = w := by
  simp only [record, found, Sink.record_of_sealed frozen]
  exact setSink_self found

/-- The transcript of one call, if it is made on the sink in question. -/
def seen (id sink : SinkId) (call : SinkCall) (answer : SinkAnswer) : List SinkEntry :=
  if sink = id then [⟨call, answer⟩] else []

/-- The calls that reach one sink while an event is recorded in several, with their answers. -/
def heard (id : SinkId) : World → List SinkId → Event → List SinkEntry
  | _, [], _ => []
  | w, other :: rest, event =>
    let (later, yes) := w.record other event
    seen id other (.record w.elapsed event) (.accepted yes) ++ heard id later rest event

end World

/-- What can be done in a world in which sinks are reached directly and through routes. -/
inductive SinkUse where
  | advance (nanos : Nat)
  | attach (router : RouterId) (patterns : PatternSet) (least : Level) (sink : SinkId)
  | detach (router : RouterId) (route : RouteId)
  /-- Emit an event to a router; what is nested runs while it is built. -/
  | emit (router : RouterId) (logger : String) (level : Level) (event : Event)
      (nested : List SinkUse)
  | record (sink : SinkId) (event : Event)
  | snapshot (sink : SinkId)
  | drain (sink : SinkId)
  | freeze (sink : SinkId)

mutual

/-- Do one thing, and put down the calls that reach a sink by it. -/
def SinkUse.run (id : SinkId) : SinkUse → World → World × List SinkEntry
  | .advance nanos, w => (w.advance nanos, [])
  | .attach router patterns least sink, w => ((w.attach router patterns least sink).1, [])
  | .detach router route, w => ((w.detach router route).1, [])
  | .emit router logger level event nested, w =>
    let targets := w.select router logger level
    let (later, _, built) := w.dispatchWith router logger level fun w =>
      let inner := runUses id nested w
      (inner.1, event, inner)
    -- The event is recorded in the world that the builder leaves behind.
    (later, built.elim [] fun inner => inner.2 ++ inner.1.heard id targets event)
  | .record sink event, w =>
    let (later, yes) := w.record sink event
    (later, World.seen id sink (.record w.elapsed event) (.accepted yes))
  | .snapshot sink, w => (w, World.seen id sink .snapshot (.snapshot (w.snapshot sink)))
  | .drain sink, w =>
    let (later, records) := w.drain sink
    (later, World.seen id sink .drain (.drained records))
  | .freeze sink, w =>
    let (later, snapshot) := w.freeze sink
    (later, World.seen id sink .freeze (.snapshot snapshot))

def runUses (id : SinkId) : List SinkUse → World → World × List SinkEntry
  | [], w => (w, [])
  | use :: rest, w =>
    let (w, entries) := use.run id w
    let (w, more) := runUses id rest w
    (w, entries ++ more)

end

/-- A sink that stands in one world stands in another, and the calls in between are answered as a
transcript says. -/
def World.Transcribed (id : SinkId) (before after : World) (entries : List SinkEntry) : Prop :=
  ∀ sink, before.sink? id = some sink →
    ∃ later, after.sink? id = some later ∧ sink.Replays entries later

namespace World

variable {id : SinkId} {w v : World}

theorem transcribed_of_sink? (same : v.sink? id = w.sink? id) : Transcribed id w v [] :=
  fun sink found => ⟨sink, same.trans found, .refl sink⟩

theorem Transcribed.trans {u : World} {entries more : List SinkEntry}
    (first : Transcribed id u w entries) (second : Transcribed id w v more) :
    Transcribed id u v (entries ++ more) := by
  intro sink found
  obtain ⟨middle, there, replays⟩ := first sink found
  obtain ⟨last, later, others⟩ := second middle there
  exact ⟨last, later, replays.trans others⟩

/-- A call that changes at most the sink it is made on, and that as the sink alone would change, is
put down as it should be. -/
theorem transcribed_call {other : SinkId} (call : SinkCall) (answer : SinkAnswer)
    (there : ∀ sink, w.sink? other = some sink →
      v.sink? other = some (sink.answer call).1 ∧ answer = (sink.answer call).2)
    (elsewhere : ∀ sink, sink ≠ other → v.sink? sink = w.sink? sink) :
    Transcribed id w v (seen id other call answer) := by
  unfold seen
  split
  · next same =>
    subst same
    intro sink found
    obtain ⟨changed, rfl⟩ := there sink found
    exact ⟨_, changed, .single sink call⟩
  · next apart => exact transcribed_of_sink? (elsewhere id (Ne.symm apart))

theorem transcribed_record (other : SinkId) (event : Event) :
    Transcribed id w (w.record other event).1
      (seen id other (.record w.elapsed event) (.accepted (w.record other event).2)) := by
  apply transcribed_call
  · intro sink found
    simp only [record, found, sink?_setSink_self found]
    exact ⟨rfl, rfl⟩
  · intro sink apart
    rw [sink?_record, if_neg apart]

theorem transcribed_drain (other : SinkId) :
    Transcribed id w (w.drain other).1 (seen id other .drain (.drained (w.drain other).2)) := by
  apply transcribed_call
  · intro sink found
    simp only [drain, found, sink?_setSink_self found]
    exact ⟨rfl, rfl⟩
  · exact fun sink apart => sink?_drain_of_ne w apart

theorem transcribed_freeze (other : SinkId) :
    Transcribed id w (w.freeze other).1 (seen id other .freeze (.snapshot (w.freeze other).2)) := by
  apply transcribed_call
  · intro sink found
    simp only [freeze, found, sink?_setSink_self found]
    exact ⟨rfl, rfl⟩
  · exact fun sink apart => (sink?_freeze w other sink).trans (if_neg apart)

theorem transcribed_snapshot (other : SinkId) :
    Transcribed id w w (seen id other .snapshot (.snapshot (w.snapshot other))) := by
  apply transcribed_call
  · intro sink found
    simp only [snapshot, found]
    exact ⟨rfl, rfl⟩
  · exact fun _ _ => rfl

/-- However often a sink is among the targets, each time is a call of its own. -/
theorem transcribed_recordAll (targets : List SinkId) (event : Event) :
    Transcribed id w (w.recordAll targets event).1 (w.heard id targets event) := by
  induction targets generalizing w with
  | nil => exact transcribed_of_sink? rfl
  | cons other rest ih => exact (transcribed_record other event).trans ih

end World

mutual

/-- What is put down of one thing is how the sink has answered. -/
theorem SinkUse.transcribed (id : SinkId) (w : World) :
    (use : SinkUse) → World.Transcribed id w (use.run id w).1 (use.run id w).2
  | .advance nanos => World.transcribed_of_sink? rfl
  | .attach router patterns least sink => by
    refine World.transcribed_of_sink? ?_
    simp only [SinkUse.run, World.attach]
    split <;> rfl
  | .detach router route => World.transcribed_of_sink? (w.sink?_detach router route id)
  | .emit router logger level event nested => by
    by_cases selected : w.select router logger level = []
    · simp only [SinkUse.run, World.dispatchWith_of_unselected selected]
      exact World.transcribed_of_sink? rfl
    · simp only [SinkUse.run, World.dispatchWith_of_selected selected, Option.elim_some]
      exact (runUses_transcribed id w nested).trans (World.transcribed_recordAll _ event)
  | .record sink event => World.transcribed_record sink event
  | .snapshot sink => World.transcribed_snapshot sink
  | .drain sink => World.transcribed_drain sink
  | .freeze sink => World.transcribed_freeze sink

theorem runUses_transcribed (id : SinkId) (w : World) :
    (uses : List SinkUse) →
      World.Transcribed id w (runUses id uses w).1 (runUses id uses w).2
  | [] => World.transcribed_of_sink? rfl
  | use :: rest => (use.transcribed id w).trans (runUses_transcribed id (use.run id w).1 rest)

end

/-- Whatever is done with a new sink, directly or through routes: what was drained, followed by what
is kept, is what was accepted, numbered from zero. A call to record is answered by whether the sink
was frozen before, and one that is refused leaves the sink as it is. -/
theorem drains_partition {w : World} {id : SinkId} {began : Nat} {wall : Instant}
    (new : w.sink? id = some (Sink.start began wall)) (uses : List SinkUse) :
    let later := (runUses id uses w).1
    let entries := (runUses id uses w).2
    let history := SinkEntry.drained entries ++ (later.snapshot id).records
    history.map Record.event = SinkEntry.accepted entries ∧
      history.map Record.seq = List.range history.length ∧
      (∀ before now event answer after, entries = before ++ ⟨.record now event, answer⟩ :: after →
        ∃ sink, (Sink.start began wall).Replays before sink ∧
          answer = .accepted (!SinkEntry.froze before) ∧
          (SinkEntry.froze before → (sink.record now event).1 = sink)) ∧
      ∀ event, (later.record id event).2 = (!SinkEntry.froze entries) ∧
        (SinkEntry.froze entries → (later.record id event).1 = later) := by
  intro later entries history
  obtain ⟨last, there, replays⟩ :
      ∃ last, later.sink? id = some last ∧ (Sink.start began wall).Replays entries last :=
    runUses_transcribed id w uses _ new
  have kept : (later.snapshot id).records = last.records := by
    rw [World.snapshot, there]
    rfl
  have whole : history = (Sink.start began wall).additions (entries.map SinkEntry.call) := by
    rw [← replays.history, ← kept]
  have frozen {before : List SinkEntry} {sink : Sink}
      (replays : (Sink.start began wall).Replays before sink) :
      sink.sealed = SinkEntry.froze before := replays.sealed.trans (Bool.false_or _)
  refine ⟨?_, ?_, fun before now event answer after parts => ?_, fun event => ?_⟩
  · rw [whole, replays.accepted]
  · rw [whole, Sink.seq_additions, List.range_eq_range']
    rfl
  · -- The transcript is cut just before the call, and once more behind it.
    rw [parts] at replays
    obtain ⟨sink, first, rest⟩ := replays.cut
    have answered : (sink.answer (.record now event)).2 = answer := rest.uncons.1
    refine ⟨sink, first, ?_, fun froze => ?_⟩
    · rw [← answered, Sink.answer_record, frozen first]
    · exact Sink.answer_record_of_sealed ((frozen first).trans froze) now event
  · rw [← frozen replays]
    exact ⟨World.record_eq_not_sealed there event, World.record_of_sealed there event⟩

/-- A world with a new sink and nothing else. -/
def World.withSink : World := { World.start ⟨0, 0⟩ with sinks := [Sink.start 0 ⟨0, 0⟩] }

/-- The sink is attached twice, reached directly while an event for it is built, and frozen while
another is built. -/
def twiceAttached : List SinkUse :=
  [.attach ⟨0⟩ ⟨[.any], by decide⟩ .info ⟨0⟩, .attach ⟨0⟩ ⟨[.any], by decide⟩ .warn ⟨0⟩,
    .emit ⟨0⟩ "app" .warn (Event.plain .warn "app" "twice")
      [.record ⟨0⟩ (Event.plain .info "app" "first")],
    .drain ⟨0⟩,
    .emit ⟨0⟩ "app" .info (Event.plain .info "app" "once") [],
    .emit ⟨0⟩ "app" .warn (Event.plain .warn "app" "late") [.freeze ⟨0⟩]]

theorem drains_partition_twiceAttached :
    let later := (runUses ⟨0⟩ twiceAttached World.withSink).1
    let entries := (runUses ⟨0⟩ twiceAttached World.withSink).2
    let history := SinkEntry.drained entries ++ (later.snapshot ⟨0⟩).records
    World.withSink.sink? ⟨0⟩ = some (Sink.start 0 ⟨0, 0⟩) ∧
      history.map Record.event = SinkEntry.accepted entries ∧
      history.map Record.seq = List.range history.length ∧
      history.map (·.event.message) = ["first", "twice", "twice", "once"] := by
  intro later entries history
  have new : World.withSink.sink? ⟨0⟩ = some (Sink.start 0 ⟨0, 0⟩) := rfl
  have parts := drains_partition new twiceAttached
  exact ⟨new, parts.1, parts.2.1, by decide +kernel⟩

end EventCapture
