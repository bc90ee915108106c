import EventCapture.Proofs.Deeds

/-! What sinks receive in a run, and through which routers.

What is received is read off the worlds before and after: it is what a sink keeps beyond what it kept
before. Every action is told by itself, and an event that is built in between separately from what
runs while it is built, so that every record is put down to the router of its own emission. Nothing
that a sink keeps is missing from this.
-/

set_option autoImplicit false

namespace EventCapture

namespace World

/-- A sink that is made keeps nothing. -/
theorem kept_of_made {v w : World} {now : Nat} {wall : Instant}
    (made : v.sinks = w.sinks ++ [Sink.start now wall]) (id : SinkId) : v.kept id = w.kept id := by
  rw [kept_eq, kept_eq, sink?, sink?, made, List.getElem?_append]
  split
  case isTrue => rfl
  case isFalse beyond =>
    rw [List.getElem?_eq_none (Nat.le_of_not_lt beyond)]
    cases found : [Sink.start now wall][id.index - w.sinks.length]? with
    | none => rfl
    | some sink =>
      rw [List.mem_singleton.mp (List.mem_of_getElem? found)]
      rfl

theorem kept_drain_cases (w : World) (id other : SinkId) :
    (w.drain id).1.kept other = w.kept other ∨ (w.drain id).1.kept other = [] := by
  rw [kept_eq, kept_eq, sink?_drain]
  split
  case isFalse => exact .inl rfl
  case isTrue same =>
    rw [same]
    cases w.sink? id with
    | none => exact .inl rfl
    | some sink =>
      simp only [Option.map_some, Option.elim_some, Sink.records_drain]
      exact ite_eq_or_eq _ _ _

/-- What a sink keeps beyond what it kept before. -/
def gained (before after : World) (id : SinkId) : List Record :=
  (after.kept id).drop (before.kept id).length

/-- A sink keeps what it kept before, perhaps with more behind it, or has been emptied. -/
def Carries (before after : World) : Prop :=
  ∀ id, before.kept id <+: after.kept id ∨ after.kept id = []

theorem carries_of_kept {before after : World} (same : ∀ id, after.kept id = before.kept id) :
    Carries before after :=
  fun id => .inl ⟨[], by rw [same, List.append_nil]⟩

theorem mem_of_mem_kept {before after : World} (carries : Carries before after) {id : SinkId}
    {record : Record} (member : record ∈ after.kept id) :
    record ∈ before.kept id ∨ record ∈ before.gained after id := by
  obtain ⟨more, grown⟩ | emptied := carries id
  · rw [gained, ← grown, List.drop_left]
    rw [← grown] at member
    exact List.mem_append.mp member
  · rw [emptied] at member
    contradiction

theorem index_lt_of_mem_kept {w : World} {id : SinkId} {record : Record}
    (member : record ∈ w.kept id) : id.index < w.sinks.length := by
  rw [kept_eq] at member
  cases found : w.sink? id with
  | none => simp [found] at member
  | some sink => exact (List.getElem?_eq_some_iff.mp found).1

end World

namespace Client

/-- A record that a sink has received: through a router, or from the client itself. -/
structure Receipt where
  through : Option RouterId
  sink : SinkId
  record : Record
  deriving DecidableEq, Repr

/-- All that sinks have gained between two worlds. -/
def receipts (through : Option RouterId) (before after : World) : List Receipt :=
  (List.range after.sinks.length).flatMap fun place =>
    (before.gained after ⟨place⟩).map fun record => ⟨through, ⟨place⟩, record⟩

theorem mem_receipts_iff {through : Option RouterId} {before after : World} {receipt : Receipt} :
    receipt ∈ receipts through before after ↔
      receipt.through = through ∧ receipt.record ∈ before.gained after receipt.sink := by
  simp only [receipts, List.mem_flatMap, List.mem_range, List.mem_map]
  constructor
  · rintro ⟨place, _, record, member, rfl⟩
    exact ⟨rfl, member⟩
  · rintro ⟨rfl, member⟩
    have bound := World.index_lt_of_mem_kept (List.mem_of_mem_drop member)
    exact ⟨receipt.sink.index, bound, receipt.record, member, rfl⟩

/-- The router to which an action emits by itself, if it does. -/
def Action.through (c : Course) : Action → Option RouterId
  | .dispatch router _ | .dispatchWith router _ _ | .log router _ _ => some router
  | .trace _ | .openSession _ _ _ _ | .openWithSettings _ _ _ | .waitFor _ _ _ | .close _
  | .drop _ => some c.world.subscriber
  | _ => none

mutual

/-- What sinks receive from an action. -/
def Action.received (action : Action) (c : Course) : List Receipt :=
  match action with
  | .dispatchWith router event nested =>
    if (c.world.select router event.logger event.level).isEmpty then
      receipts router c.world (action.run c).world
    else receivedAll nested c ++ receipts router (runAll nested c).world (action.run c).world
  | .log router entry nested =>
    if (c.world.select router entry.logger entry.level).isEmpty then
      receipts router c.world (action.run c).world
    else receivedAll nested c ++ receipts router (runAll nested c).world (action.run c).world
  | .within router nested => receivedAll nested (c.moved { c.world with subscriber := router })
  | action => receipts (action.through c) c.world (action.run c).world

/-- What sinks receive in a run. -/
def receivedAll : List Action → Course → List Receipt
  | [], _ => []
  | action :: rest, c => action.received c ++ receivedAll rest (action.run c)

end

/-! ### Reports of sessions -/

/-- One state comes from another with what the sinks keep and who is the subscriber left as they
were. -/
structure Quiet (before after : Course) : Prop where
  kept : ∀ id, after.world.kept id = before.world.kept id
  subscriber : after.world.subscriber = before.world.subscriber

/-- All is quiet, but for a report at the end, perhaps. It bears a name of this library itself, and
is emitted like any other structured event. -/
inductive Announces (before : Course) : Course → Prop where
  | silent {after : Course} (quiet : Quiet before after) : Announces before after
  | told {middle : Course} (quiet : Quiet before middle) {event : Facade.TraceEvent}
      (own : Router.isOwnName event.logger = true) : Announces before (middle.report event)

theorem Quiet.refl (c : Course) : Quiet c c := ⟨fun _ => rfl, rfl⟩

theorem announces_openAs (c : Course) (opening : Opening) : Announces c (c.openAs opening) := by
  unfold Course.openAs
  split
  · exact .silent (.refl c)
  · next there found =>
    split
    · exact .told (.refl c) (isOwnName_report Session.opening rfl _ _ _)
    · next patterns least renderLimit settings =>
      split
      · exact .silent (.refl c)
      · next wall timed =>
        have quiet : Quiet c
            (c.enlisted there wall (c.fresh opening there patterns least renderLimit)) :=
          ⟨World.kept_of_made rfl, rfl⟩
        exact .told quiet (isOwnName_report Session.opening rfl _ _ _)

theorem announces_opening {action : Action} {opening : Opening}
    (asked : action.opening? = some opening) (c : Course) : Announces c (action.run c) :=
  run_opening asked c ▸ announces_openAs c opening

theorem announces_close (c : Course) (ref : SessionRef) : Announces c (c.close ref) := by
  obtain same | ⟨session, _, _, _, ended⟩ := close_cases c ref
  · exact same.symm ▸ .silent (.refl c)
  · have quiet : Quiet c ((c.moved (c.world.retire ref session)).noted (.closed ref)) :=
      ⟨c.world.kept_retire ref session, (World.atOnce_retire _ _ _).subscriber⟩
    exact ended.symm ▸ .told quiet (isOwnName_report Session.closing rfl _ _ _)

theorem announces_waitFor (c : Course) (ref : SessionRef) (filter : Filter) (policy : WaitPolicy) :
    Announces c (c.waitFor ref filter policy) := by
  obtain ⟨nanos, _, ended⟩ := waitFor_cases c ref filter policy
  have quiet : Quiet c (c.moved (c.world.advance nanos)) := ⟨fun _ => rfl, rfl⟩
  obtain found | ⟨_, _, _, failed⟩ := ended
  · exact found.symm ▸ .silent quiet
  · exact failed.symm ▸ .told quiet (isOwnName_report Session.waiting rfl _ _ _)

/-- Whether an action opens a session, waits for it or ends it. -/
def Action.isLifecycle : Action → Bool
  | .openSession _ _ _ _ | .openWithSettings _ _ _ | .waitFor _ _ _ | .close _ | .drop _ => true
  | _ => false

theorem Action.announces (c : Course) {action : Action} (lifecycle : action.isLifecycle = true) :
    Announces c (action.run c) := by
  cases action with
  | openSession | openWithSettings => exact announces_opening rfl c
  | waitFor session filter policy => exact announces_waitFor c session filter policy
  | close session => exact announces_close c session
  | drop session => exact run_drop session c ▸ announces_close c session
  | _ => contradiction

/-! ### Nothing is missing -/

theorem carries_emit (b since : Course) (router : RouterId) (event : Event) :
    World.Carries b.world (b.emit since router event).world := fun id =>
  have ⟨added, kept, _⟩ := b.world.added_recordAll
    (since.world.select router event.logger event.level) event id
  .inl ⟨added, kept.symm⟩

theorem Announces.carries {before after : Course} (announces : Announces before after) :
    World.Carries before.world after.world := by
  cases announces with
  | silent quiet => exact World.carries_of_kept quiet.kept
  | @told middle quiet event own =>
    intro id
    have grown := carries_emit middle middle middle.world.subscriber event.captured id
    rwa [quiet.kept id] at grown

theorem carries_onSink {change : World → SinkId → World} {c : Course}
    (carries : ∀ id, World.Carries c.world (change c.world id)) (place : Nat) :
    World.Carries c.world (c.onSink place change).world := by
  unfold Course.onSink
  cases c.sinks[place]? with
  | none => exact World.carries_of_kept fun _ => rfl
  | some id => exact carries id

theorem carries_drain (w : World) (id : SinkId) : World.Carries w (w.drain id).1 := fun other => by
  obtain same | emptied := w.kept_drain_cases id other
  · exact .inl (same ▸ List.prefix_refl _)
  · exact .inr emptied

theorem Action.carries_ready (c : Course) {action : Action} (ready : action.isReady = true) :
    World.Carries c.world (action.run c).world := by
  cases action with
  | within => contradiction
  | dispatch router event => exact run_dispatch router event c ▸ carries_emit c c _ _
  | dispatchWith router event nested =>
    obtain rfl := List.isEmpty_iff.mp ready
    exact run_dispatchWith_ready router event c ▸ carries_emit c c _ _
  | trace event => exact run_trace event c ▸ carries_emit c c _ _
  | log router entry nested =>
    obtain rfl := List.isEmpty_iff.mp ready
    exact run_log_ready router entry c ▸ carries_emit c c _ _
  | openSession | openWithSettings | waitFor | close | drop =>
    exact (Action.announces c rfl).carries
  | record sink event =>
    refine carries_onSink (fun id other => ?_) sink
    obtain ⟨added, kept, _⟩ := c.world.added_recordAll [id] event other
    exact .inl ⟨added, kept.symm⟩
  | drainSink sink => exact carries_onSink (carries_drain c.world) sink
  | freeze sink =>
    exact carries_onSink (fun id => World.carries_of_kept (c.world.kept_freeze id)) sink
  | drain session =>
    simp only [Action.run]
    unfold Course.drain World.drainSession
    cases c.world.session? session with
    | none => exact World.carries_of_kept fun _ => rfl
    | some session => exact carries_drain c.world session.sink
  | newSink =>
    simp only [Action.run]
    obtain ⟨fault, made⟩ | ⟨wall, made⟩ := c.world.newSink_cases
    · rw [made]
      exact World.carries_of_kept fun _ => rfl
    · rw [made]
      exact World.carries_of_kept (World.kept_of_made rfl)
  | attach router patterns least sink =>
    refine World.carries_of_kept fun id => World.kept_of_sink? ?_
    simp only [Action.run, Course.attach, World.attach]
    split
    · rfl
    · cases c.world.router? router <;> rfl
  | detach handle =>
    refine World.carries_of_kept fun id => World.kept_of_sink? ?_
    simp only [Action.run, Course.detach]
    split
    · rfl
    · exact World.sink?_detach _ _ _ _
  | advance | newRouter => exact World.carries_of_kept fun _ => rfl

theorem mem_receipts_of_kept {before after : World} (carries : World.Carries before after)
    (through : Option RouterId) {id : SinkId} {record : Record} (member : record ∈ after.kept id) :
    record ∈ before.kept id ∨ ⟨through, id, record⟩ ∈ receipts through before after :=
  (World.mem_of_mem_kept carries member).imp_right fun gained => mem_receipts_iff.mpr ⟨rfl, gained⟩

/-- A record has come to a sink among these. -/
def Brings (received : List Receipt) (id : SinkId) (record : Record) : Prop :=
  ∃ receipt ∈ received, receipt.sink = id ∧ receipt.record = record

theorem Brings.of_mem {received : List Receipt} {through : Option RouterId} {id : SinkId}
    {record : Record} (member : ⟨through, id, record⟩ ∈ received) : Brings received id record :=
  ⟨_, member, rfl, rfl⟩

theorem brings_append {received more : List Receipt} {id : SinkId} {record : Record} :
    Brings (received ++ more) id record ↔ Brings received id record ∨ Brings more id record := by
  simp only [Brings, List.mem_append, or_and_right, exists_or]

theorem received_dispatchWith (router : RouterId) (event : Event) (nested : List Action)
    (c : Course) :
    (Action.dispatchWith router event nested).received c =
      if c.world.select router event.logger event.level = [] then
        receipts router c.world (c.emit c router event).world
      else
        receivedAll nested c ++
          receipts router (runAll nested c).world ((runAll nested c).emit c router event).world := by
  rw [Action.received, run_dispatchWith]
  split <;> simp_all

theorem received_log (router : RouterId) (entry : Facade.LogEntry) (nested : List Action)
    (c : Course) :
    (Action.log router entry nested).received c =
      if c.world.select router entry.logger entry.level = [] then
        receipts router c.world (c.emit c router entry.captured).world
      else
        receivedAll nested c ++
          receipts router (runAll nested c).world
            ((runAll nested c).emit c router entry.captured).world := by
  rw [Action.received, run_log]
  split <;> simp_all

theorem Action.received_ready (c : Course) {action : Action} (ready : action.isReady = true) :
    action.received c = receipts (action.through c) c.world (action.run c).world := by
  cases action with
  | within => contradiction
  | dispatchWith router event nested | log router entry nested =>
    obtain rfl := List.isEmpty_iff.mp ready
    rw [Action.received]
    split <;> rfl
  | _ => rfl

section

variable {id : SinkId} {record : Record}

theorem Action.brings_ready (c : Course) {action : Action} (ready : action.isReady = true)
    (member : record ∈ (action.run c).world.kept id) :
    record ∈ c.world.kept id ∨ Brings (action.received c) id record := by
  rw [action.received_ready c ready]
  exact (mem_receipts_of_kept (action.carries_ready c ready) _ member).imp_right .of_mem

/-- What an emission brings comes on top of what was kept when its event had been built. -/
theorem brings_emit {c built : Course} (since : Course) (router : RouterId) (event : Event)
    (received : List Receipt)
    (inner : record ∈ built.world.kept id → record ∈ c.world.kept id ∨ Brings received id record)
    (member : record ∈ (built.emit since router event).world.kept id) :
    record ∈ c.world.kept id ∨
      Brings (received ++ receipts router built.world (built.emit since router event).world) id
        record := by
  rw [brings_append]
  obtain before | gained :=
    mem_receipts_of_kept (carries_emit built since router event) router member
  · exact (inner before).imp_right .inl
  · exact .inr (.inr (.of_mem gained))

mutual

theorem Action.brings (c : Course) :
    (action : Action) → record ∈ (action.run c).world.kept id →
      record ∈ c.world.kept id ∨ Brings (action.received c) id record
  | .dispatchWith router event nested => by
    rw [received_dispatchWith, run_dispatchWith]
    split
    · exact brings_emit c router event [] .inl
    · exact brings_emit c router event _ (runAll_brings c nested)
  | .log router entry nested => by
    rw [received_log, run_log]
    split
    · exact brings_emit c router entry.captured [] .inl
    · exact brings_emit c router entry.captured _ (runAll_brings c nested)
  | .within router nested => by
    rw [Action.received, run_within]
    exact runAll_brings (c.moved { c.world with subscriber := router }) nested
  | .advance _ | .newRouter _ | .newSink | .attach _ _ _ _ | .detach _ | .dispatch _ _
  | .trace _ | .record _ _ | .drainSink _ | .freeze _ | .openSession _ _ _ _
  | .openWithSettings _ _ _ | .drain _ | .waitFor _ _ _ | .close _ | .drop _ =>
    Action.brings_ready c rfl

theorem runAll_brings (c : Course) :
    (actions : List Action) → record ∈ (runAll actions c).world.kept id →
      record ∈ c.world.kept id ∨ Brings (receivedAll actions c) id record
  | [], member => .inl member
  | action :: rest, member => by
    rw [receivedAll, brings_append]
    obtain before | later := runAll_brings (action.run c) rest member
    · exact (action.brings c before).imp_right .inl
    · exact .inr (.inr later)

end

/-- All that a sink keeps at the end of a run it has received in the run. -/
theorem brings_of_start {origin : Instant} {actions : List Action}
    (member : record ∈ (runAll actions (Course.start origin)).world.kept id) :
    Brings (receivedAll actions (Course.start origin)) id record := by
  obtain before | received := runAll_brings (Course.start origin) actions member
  · contradiction
  · exact received

end

end Client

end EventCapture
