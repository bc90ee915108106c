import EventCapture.Proofs.Receipts

/-! Events of this library itself.

A router that was not made for them keeps away from them: whatever a client does, no sink receives
one through it. Every other event, and on a router that was made for them every event, goes where the
patterns and levels of the routes lead it. Sessions report under own names, and their reports are
emitted like any other event.
-/

set_option autoImplicit false

namespace EventCapture

namespace Router

/-- The name of this library, or a name below it. -/
def IsOwn (logger : String) : Prop :=
  logger = ownRoot ∨ ∃ rest, logger = ownRoot ++ "." ++ rest

/-- What follows the root decides. -/
theorem isOwnName_iff {logger : String} : isOwnName logger = true ↔ IsOwn logger := by
  have whole := List.take_append_drop ownRoot.toList.length logger.toList
  simp only [isOwnName, Bool.and_eq_true, beq_iff_eq]
  constructor
  · rintro ⟨root, next⟩
    rw [root] at whole
    cases tail : logger.toList.drop ownRoot.toList.length with
    | nil =>
      rw [tail, List.append_nil] at whole
      exact .inl (String.toList_inj.mp whole.symm)
    | cons first rest =>
      have dot : first = '.' := by simpa [tail] using next
      refine .inr ⟨String.ofList rest, String.toList_inj.mp ?_⟩
      rw [← whole, tail, dot]
      simp
  · rintro (rfl | ⟨rest, rfl⟩)
    · decide
    · simp [String.toList_append, List.append_assoc]

end Router

namespace World

theorem ownEvents?_of_mem_table {w : World} {id : RouterId} {route : Route}
    (held : route ∈ w.table id) : ∃ own, w.ownEvents? id = some own := by
  unfold table at held
  unfold ownEvents?
  cases found : w.router? id with
  | none => simp [found] at held
  | some router => exact ⟨router.ownEvents, rfl⟩

theorem ownEvents?_made (w : World) (ownEvents : Bool) :
    (w.newRouter ownEvents).1.ownEvents? (w.newRouter ownEvents).2 = some ownEvents := by
  simp [ownEvents?, router?, newRouter, Router.empty]

/-- A router wants events of a name and severity if it does not keep away from the name and one of
its routes admits them. -/
def Wants (w : World) (id : RouterId) (logger : String) (level : Level) : Prop :=
  (w.ownEvents? id = some false → ¬ Router.IsOwn logger) ∧
    ∃ route ∈ w.table id, route.admits logger level = true

theorem ignores_iff {w : World} {id : RouterId} {logger : String} :
    w.ignores id logger = true ↔ w.ownEvents? id = some false ∧ Router.IsOwn logger := by
  rw [← Router.isOwnName_iff, ignores]
  cases w.ownEvents? id <;> simp

theorem select_ne_nil_iff {w : World} {id : RouterId} {logger : String} {level : Level} :
    w.select id logger level ≠ [] ↔ w.Wants id logger level := by
  rw [Wants, ← not_and, ← ignores_iff, select_eq]
  cases w.ignores id logger <;> simp

theorem select_of_wants {w : World} {router : RouterId} {logger : String} {level : Level}
    (wanted : w.Wants router logger level) :
    w.select router logger level =
      ((w.table router).filter (·.admits logger level)).map Route.sink := by
  have welcome : w.ignores router logger = false := Bool.eq_false_iff.mpr fun ignored =>
    have ⟨plain, own⟩ := ignores_iff.mp ignored
    wanted.1 plain own
  rw [select_eq, if_neg (welcome ▸ Bool.false_ne_true)]

theorem isInterested_iff {w : World} {id : RouterId} {logger : String} {level : Level} :
    w.isInterested id logger level = true ↔ w.Wants id logger level := by
  rw [← select_ne_nil_iff, isInterested, select]
  cases w.router? id with
  | none => simp
  | some router => simp [Router.isInterested_eq]

end World

namespace Client

/-! ### Routing -/

theorem world_emit_of_not_wants {since : Course} {router : RouterId} {event : Event}
    (unwanted : ¬ since.world.Wants router event.logger event.level) (b : Course) :
    (b.emit since router event).world = b.world := by
  rw [← World.select_ne_nil_iff, not_not] at unwanted
  rw [Course.emit, unwanted]
  rfl

/-- The number of routes of a router that admit an event and lead to a sink. -/
def leading (w : World) (router : RouterId) (event : Event) (id : SinkId) : Nat :=
  (w.table router).countP fun route => route.sink == id && route.admits event.logger event.level

/-- A sink takes a wanted event once for every route that admits it and leads there, unless it is
frozen by the time the event is recorded. -/
theorem kept_emit_of_wants {since : Course} {router : RouterId} {event : Event}
    (wanted : since.world.Wants router event.logger event.level) (b : Course) (id : SinkId) :
    ∃ added, (b.emit since router event).world.kept id = b.world.kept id ++ added ∧
      added.map Record.event = if b.world.frozen? id = some false then
        List.replicate (leading since.world router event id) event else [] := by
  have count : (since.world.select router event.logger event.level).count id =
      leading since.world router event id := by
    rw [World.select_of_wants wanted, List.count, List.countP_map, List.countP_filter]
    rfl
  obtain ⟨added, kept, same⟩ := b.world.added_recordAll
    (since.world.select router event.logger event.level) event id
  exact ⟨added, kept, same.trans (by rw [count])⟩

/-- An event that an action sends to a router, and what runs while it is built. -/
structure Sending where
  router : RouterId
  event : Event
  nested : List Action

/-- The event that an action sends by itself. Structured events go to the subscriber. -/
def Action.sending? (c : Course) : Action → Option Sending
  | .dispatch router event => some ⟨router, event, []⟩
  | .dispatchWith router event nested => some ⟨router, event, nested⟩
  | .trace event => some ⟨c.world.subscriber, event.captured, []⟩
  | .log router entry nested => some ⟨router, entry.captured, nested⟩
  | _ => none

/-- An event is built and recorded if it is wanted; otherwise nothing is changed by it. -/
theorem run_sending {c : Course} {action : Action} {sending : Sending}
    (sends : action.sending? c = some sending) :
    (c.world.Wants sending.router sending.event.logger sending.event.level →
        action.run c = (runAll sending.nested c).emit c sending.router sending.event) ∧
      (¬ c.world.Wants sending.router sending.event.logger sending.event.level →
        action.run c = c.emit c sending.router sending.event) := by
  simp only [← World.select_ne_nil_iff, not_not]
  cases action with
  | dispatch router event =>
    obtain rfl := Option.some.inj sends
    exact ⟨fun _ => run_dispatch router event c, fun _ => run_dispatch router event c⟩
  | trace event =>
    obtain rfl := Option.some.inj sends
    exact ⟨fun _ => run_trace event c, fun _ => run_trace event c⟩
  | dispatchWith router event nested =>
    obtain rfl := Option.some.inj sends
    rw [run_dispatchWith]
    exact ⟨fun wanted => if_neg wanted, fun unwanted => if_pos unwanted⟩
  | log router entry nested =>
    obtain rfl := Option.some.inj sends
    obtain ⟨logger, level⟩ := entry.captured_logger
    rw [run_log, ← logger, ← level]
    exact ⟨fun wanted => if_neg wanted, fun unwanted => if_pos unwanted⟩
  | _ => contradiction

/-- How a router deals with an event that an action sends to it: it says beforehand whether it wants
the event, is left alone by an event that it does not want, and delivers one that it wants by the
routes of its table. -/
structure Routed (c : Course) (action : Action) (sending : Sending) : Prop where
  interested : c.world.isInterested sending.router sending.event.logger sending.event.level = true ↔
    c.world.Wants sending.router sending.event.logger sending.event.level
  unwanted : ¬ c.world.Wants sending.router sending.event.logger sending.event.level →
    (action.run c).world = c.world
  wanted : c.world.Wants sending.router sending.event.logger sending.event.level →
    let built := (runAll sending.nested c).world
    ∀ id, ∃ added, (action.run c).world.kept id = built.kept id ++ added ∧
      added.map Record.event = if built.frozen? id = some false then
        List.replicate (leading c.world sending.router sending.event id) sending.event else []

theorem routed {c : Course} {action : Action} {sending : Sending}
    (sends : action.sending? c = some sending) : Routed c action sending := by
  obtain ⟨delivered, dropped⟩ := run_sending sends
  refine ⟨World.isInterested_iff, fun unwanted => ?_, fun wanted => ?_⟩
  · rw [dropped unwanted, world_emit_of_not_wants unwanted]
  · rw [delivered wanted]
    exact kept_emit_of_wants wanted _

/-! ### Own events -/

/-- What came through a router was wanted: the router was made for own events, or this is none. -/
def Receipt.Welcome (receipt : Receipt) (w : World) : Prop :=
  ∀ router, receipt.through = some router →
    ∃ own, w.ownEvents? router = some own ∧
      (own = false → ¬ Router.IsOwn receipt.record.event.logger)

theorem Receipt.Welcome.later {receipt : Receipt} {c d : Course} (welcome : receipt.Welcome c.world)
    (leads : Leads c d) : receipt.Welcome d.world := fun router through =>
  have ⟨own, known, foreign⟩ := welcome router through
  ⟨own, leads.routers router own known, foreign⟩

/-- What an emission brings was wanted when its targets were selected. -/
theorem welcome_of_emit {b since : Course} (leads : Leads since b) {router : RouterId}
    {event : Event} {receipt : Receipt}
    (member : receipt ∈ receipts router b.world (b.emit since router event).world) :
    receipt.Welcome (b.emit since router event).world := by
  suffices before : receipt.Welcome since.world from
    (before.later leads).later (leads_emit b since router event)
  obtain ⟨through, gained⟩ := mem_receipts_iff.mp member
  rintro target aimed
  obtain rfl : router = target := Option.some.inj (through.symm.trans aimed)
  have wanted : since.world.Wants router event.logger event.level := by
    by_contra unwanted
    rw [World.gained, world_emit_of_not_wants unwanted, List.drop_length] at gained
    contradiction
  obtain ⟨added, kept, same⟩ := kept_emit_of_wants wanted b receipt.sink
  rw [World.gained, kept, List.drop_left] at gained
  have event_eq : receipt.record.event = event := by
    have there := List.mem_map_of_mem (f := Record.event) gained
    rw [same] at there
    split at there
    · exact List.eq_of_mem_replicate there
    · contradiction
  obtain ⟨foreign, route, held, _⟩ := wanted
  obtain ⟨own, known⟩ := World.ownEvents?_of_mem_table held
  exact ⟨own, known, fun plain => event_eq ▸ foreign (known.trans (plain ▸ rfl))⟩

/-- Nothing is received quietly, and a report is an emission. -/
theorem Announces.welcome {before after : Course} (announces : Announces before after)
    {receipt : Receipt}
    (member : receipt ∈ receipts before.world.subscriber before.world after.world) :
    receipt.Welcome after.world := by
  obtain ⟨through, gained⟩ := mem_receipts_iff.mp member
  cases announces with
  | silent quiet =>
    rw [World.gained, quiet.kept, List.drop_length] at gained
    contradiction
  | @told middle quiet event own =>
    rw [World.gained, ← quiet.kept] at gained
    have there : receipt ∈ receipts middle.world.subscriber middle.world
        (middle.report event).world :=
      mem_receipts_iff.mpr ⟨quiet.subscriber ▸ through, gained⟩
    exact welcome_of_emit (.refl middle) there

theorem Action.welcome_ready (c : Course) {action : Action} (ready : action.isReady = true)
    {receipt : Receipt} (member : receipt ∈ action.received c) :
    receipt.Welcome (action.run c).world := by
  rw [action.received_ready c ready] at member
  cases action with
  | within => contradiction
  | dispatch router event =>
    rw [run_dispatch] at member ⊢
    exact welcome_of_emit (.refl c) member
  | dispatchWith router event nested =>
    obtain rfl := List.isEmpty_iff.mp ready
    rw [run_dispatchWith_ready] at member ⊢
    exact welcome_of_emit (.refl c) member
  | trace event =>
    rw [run_trace] at member ⊢
    exact welcome_of_emit (.refl c) member
  | log router entry nested =>
    obtain rfl := List.isEmpty_iff.mp ready
    rw [run_log_ready] at member ⊢
    exact welcome_of_emit (.refl c) member
  | openSession | openWithSettings | waitFor | close | drop =>
    exact (Action.announces c rfl).welcome member
  | _ =>
    -- What is received without a router is nobody's concern here.
    rintro router through
    rw [(mem_receipts_iff.mp member).1] at through
    contradiction

/-- What is received while an event is built stays welcome. -/
theorem welcome_of_nested {c built : Course} (leads : Leads c built) (router : RouterId)
    (event : Event) {received : List Receipt}
    (inner : ∀ receipt ∈ received, receipt.Welcome built.world) :
    ∀ receipt ∈ received ++ receipts router built.world (built.emit c router event).world,
      receipt.Welcome (built.emit c router event).world := by
  intro receipt member
  obtain early | late := List.mem_append.mp member
  · exact (inner receipt early).later (leads_emit built c router event)
  · exact welcome_of_emit leads late

mutual

theorem Action.welcome (c : Course) :
    (action : Action) → ∀ receipt ∈ action.received c, receipt.Welcome (action.run c).world
  | .dispatchWith router event nested => by
    rw [received_dispatchWith, run_dispatchWith]
    split
    · exact fun _ => welcome_of_emit (.refl c)
    · exact welcome_of_nested (runAll_passage c nested).leads _ _ (runAll_welcome c nested)
  | .log router entry nested => by
    rw [received_log, run_log]
    split
    · exact fun _ => welcome_of_emit (.refl c)
    · exact welcome_of_nested (runAll_passage c nested).leads _ _ (runAll_welcome c nested)
  | .within router nested => by
    rw [Action.received, run_within]
    exact runAll_welcome (c.moved { c.world with subscriber := router }) nested
  | .advance _ | .newRouter _ | .newSink | .attach _ _ _ _ | .detach _ | .dispatch _ _
  | .trace _ | .record _ _ | .drainSink _ | .freeze _ | .openSession _ _ _ _
  | .openWithSettings _ _ _ | .drain _ | .waitFor _ _ _ | .close _ | .drop _ =>
    fun _ => Action.welcome_ready c rfl

/-- All that came through routers in a run was wanted by them. -/
theorem runAll_welcome (c : Course) :
    (actions : List Action) → ∀ receipt ∈ receivedAll actions c,
      receipt.Welcome (runAll actions c).world
  | [], _, member => by contradiction
  | action :: rest, receipt, member => by
    obtain early | late := List.mem_append.mp member
    · exact (action.welcome c receipt early).later (runAll_passage (action.run c) rest).leads
    · exact runAll_welcome (action.run c) rest receipt late

end

/-- Whatever a client does, all that a sink keeps in the end it has received in the run, and no event
of this library itself came to it through a router that was not made for them. A router stays what it
was made for. In every state of the run, inside builders too, an event that is sent to a router goes
by the patterns and the levels of its routes alone, unless the router keeps away from its name; and
what sessions report is sent like any other structured event, under an own name. -/
theorem own_events_stay_out (origin : Instant) (actions : List Action) :
    let last := runAll actions (Course.start origin)
    let received := receivedAll actions (Course.start origin)
    ((∀ id, ∀ record ∈ last.world.kept id, Brings received id record) ∧
        ∀ receipt ∈ received, ∀ router, receipt.through = some router →
          last.world.ownEvents? router = some false →
            ¬ Router.IsOwn receipt.record.event.logger) ∧
      ∀ c ∈ trail actions (Course.start origin),
        (∀ own, (c.world.newRouter own).1.ownEvents? (c.world.newRouter own).2 = some own) ∧
          (∀ router own, c.world.ownEvents? router = some own →
            last.world.ownEvents? router = some own) ∧
          (∀ action sending, action.sending? c = some sending → Routed c action sending) ∧
          ∀ action : Action, action.isLifecycle = true → Announces c (action.run c) := by
  intro last received
  refine ⟨⟨fun id record => brings_of_start, fun receipt member router through plain => ?_⟩,
    fun c member => ⟨c.world.ownEvents?_made, ?_, fun _ _ => routed, fun _ => Action.announces c⟩⟩
  · obtain ⟨own, known, foreign⟩ := runAll_welcome _ actions receipt member router through
    have same : own = false := Option.some.inj (known.symm.trans plain)
    exact foreign same
  · exact ((trail_between _ actions).leading c member).routers

/-- Two routers, the second of them made for own events, with a session for all events on each, and
an opening that fails while the second is the subscriber. -/
def bothRouters : List Action :=
  [.newRouter true, .openSession ⟨7⟩ ⟨0⟩ ["*"] .trace, .openSession ⟨8⟩ ⟨1⟩ ["*"] .trace,
    .dispatch ⟨0⟩ (Event.plain .info "logcap_core" "own"),
    .log ⟨0⟩ ⟨"logcap_core::part", .warn, "own", none, none, none⟩ [],
    .dispatch ⟨0⟩ (Event.plain .info "logcap_core_ext" "other"),
    .within ⟨1⟩ [.openSession ⟨9⟩ ⟨0⟩ ["app..part"] .trace], .close ⟨1⟩]

/-- The first router lets no own event through, and to the second the failure is reported. -/
theorem own_events_stay_out_bothRouters :
    let last := runAll bothRouters (Course.start ⟨0, 0⟩)
    let received := receivedAll bothRouters (Course.start ⟨0, 0⟩)
    (received.map fun receipt =>
        (receipt.through.map RouterId.index, receipt.sink.index, receipt.record.event.logger)) =
      [(some 0, 0, "logcap_core_ext"), (some 1, 1, "logcap_core.session")] ∧
      (∃ receipt ∈ received, receipt.through = some ⟨0⟩ ∧
        ¬ Router.IsOwn receipt.record.event.logger) ∧
      last.world.isInterested ⟨0⟩ "logcap_core_ext" .info = true ∧
      Announces last ((Action.drop ⟨0⟩).run last) := by
  intro last received
  obtain ⟨⟨_, out⟩, states⟩ := own_events_stay_out ⟨0, 0⟩ bothRouters
  obtain ⟨_, _, sent, reports⟩ := states last (runAll_mem_trail _ _)
  have plain : last.world.ownEvents? ⟨0⟩ = some false := by decide +kernel
  have foreign : ¬ Router.IsOwn "logcap_core_ext" :=
    mt Router.isOwnName_iff.mpr (by decide)
  have admitted : ∃ route ∈ last.world.table ⟨0⟩, route.admits "logcap_core_ext" .info = true := by
    decide +kernel
  let event := Event.plain .info "logcap_core_ext" "other"
  let receipt : Receipt := ⟨some ⟨0⟩, ⟨0⟩, ⟨0, ⟨0, 0⟩, 0, event⟩⟩
  have member : receipt ∈ received := by decide +kernel
  have routed := sent (.dispatch ⟨0⟩ event) ⟨⟨0⟩, event, []⟩ rfl
  exact ⟨by decide +kernel, ⟨receipt, member, rfl, out receipt member ⟨0⟩ rfl plain⟩,
    routed.interested.mpr ⟨fun _ => foreign, admitted⟩, reports (.drop ⟨0⟩) rfl⟩

end Client

end EventCapture
