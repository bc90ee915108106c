import EventCapture.Proofs.Delivery
import EventCapture.Proofs.Facades

/-! Interest: what a router says of a name and a severity before anything is emitted.

The question is answered from the table without an event, and an emission asks the table once more
when it selects its targets. Both come to the same, so that what is not built for want of interest
would have reached nobody, and what is built reaches every admitting route whose sink is open.
-/

set_option autoImplicit false

namespace EventCapture

theorem Route.admits_of_le {route : Route} {logger : String} {level higher : Level}
    (raised : level ≤ higher) (admitted : route.admits logger level = true) :
    route.admits logger higher = true := by
  rw [admits, Bool.and_eq_true, decide_eq_true_iff] at admitted ⊢
  exact ⟨Level.le_trans admitted.1 raised, admitted.2⟩

namespace World

/-- The answers to all who ask beforehand, and to those who find out when they have something to
format or to build: it is done at once, or not at all. -/
structure SaysAhead (w : World) (router : RouterId) (target : String) (level : Level)
    (interested : Bool) : Prop where
  asked : w.isInterested router (Name.ofTarget target) level = interested
  enabled : w.logEnabled router target level = interested
  formats : ∀ {α : Type} (entry : Facade.LogEntry) (format : World → World × α),
    entry.target = target → entry.level = level →
      (w.log router entry format).2 = if interested then some (format w).2 else none
  builds : ∀ {α : Type} (build : World → World × Event × α),
    (w.dispatchWith router (Name.ofTarget target) level build).2.2 =
      if interested then some (build w).2.2 else none

/-- Whatever of a target and a severity is emitted to a router, along whichever way, reaches no sink
and changes nothing. -/
structure Unmoved (w : World) (router : RouterId) (target : String) (level : Level) : Prop where
  log : ∀ {α : Type} (entry : Facade.LogEntry) (format : World → World × α),
    entry.target = target → entry.level = level → w.log router entry format = (w, none)
  trace : ∀ event : Facade.TraceEvent,
    event.target = target → event.level = level → w.traceTo router event = w
  ready : ∀ event : Event, event.logger = Name.ofTarget target → event.level = level →
    w.dispatch router event = (w, 0)
  onDemand : ∀ {α : Type} (build : World → World × Event × α),
    w.dispatchWith router (Name.ofTarget target) level build = (w, 0, none)

/-! ### The two ways to ask -/

variable {w : World} {router : RouterId} {logger : String} {level : Level}

theorem select_eq_nil_of_uninterested (not : w.isInterested router logger level = false) :
    w.select router logger level = [] := by
  by_contra selected
  rw [isInterested_iff.mpr (select_ne_nil_iff.mp selected)] at not
  contradiction

theorem dispatchWith_result {α : Type} (w : World) (router : RouterId) (logger : String)
    (level : Level) (build : World → World × Event × α) :
    (w.dispatchWith router logger level build).2.2 =
      if w.isInterested router logger level then some (build w).2.2 else none := by
  cases interested : w.isInterested router logger level with
  | false =>
    rw [dispatchWith_of_unselected (select_eq_nil_of_uninterested interested)]
    rfl
  | true =>
    have wanted := isInterested_iff.mp interested
    rw [dispatchWith_of_selected (select_ne_nil_iff.mpr wanted)]
    rfl

theorem saysAhead (w : World) (router : RouterId) (target : String) (level : Level) :
    w.SaysAhead router target level (w.isInterested router (Name.ofTarget target) level) where
  asked := rfl
  enabled := rfl
  formats := by
    rintro α entry format rfl rfl
    exact w.dispatchWith_result router entry.logger entry.level fun w =>
      ((format w).1, entry.captured, (format w).2)
  builds := w.dispatchWith_result router (Name.ofTarget target) level

theorem unmoved_of_uninterested {target : String}
    (not : w.isInterested router (Name.ofTarget target) level = false) :
    w.Unmoved router target level := by
  have unselected := select_eq_nil_of_uninterested not
  constructor
  · rintro α entry format rfl rfl
    have nowhere : w.select router entry.logger entry.level = [] := unselected
    unfold log
    rw [dispatchWith_of_unselected nowhere]
  · rintro event rfl rfl
    have nowhere : w.select router event.logger event.level = [] := unselected
    rw [traceTo_eq, nowhere]
    rfl
  · intro event named severe
    rw [dispatch_eq, named, severe, unselected]
    rfl
  · exact dispatchWith_of_unselected unselected

/-! ### Delivery -/

/-- A ready event that is wanted is counted once for every admitting route, if all their sinks are
open. -/
theorem dispatch_count_of_open (wanted : w.Wants router logger level)
    (opened : ∀ route ∈ (w.table router).filter (·.admits logger level),
      w.frozen? route.sink = some false) {event : Event} (named : event.logger = logger)
    (severe : event.level = level) :
    (w.dispatch router event).2 = ((w.table router).filter (·.admits logger level)).length := by
  subst named severe
  rw [dispatch_eq, recordAll_accepted, select_of_wants wanted, List.countP_map]
  refine List.countP_eq_length.mpr fun route among => ?_
  exact beq_iff_eq.mpr (opened route among)

theorem Wants.one_le_length (wanted : w.Wants router logger level) :
    1 ≤ ((w.table router).filter (·.admits logger level)).length := by
  obtain ⟨_, route, held, admitted⟩ := wanted
  exact List.length_pos_of_mem (List.mem_filter.mpr ⟨held, admitted⟩)

/-! ### More severe events, and more routes -/

theorem Wants.of_le {higher : Level} (raised : level ≤ higher)
    (wanted : w.Wants router logger level) : w.Wants router logger higher := by
  obtain ⟨welcome, route, held, admitted⟩ := wanted
  exact ⟨welcome, route, held, Route.admits_of_le raised admitted⟩

/-- Attaching a route leaves a router what it is, and takes no route out of any table. -/
theorem Wants.attach (wanted : w.Wants router logger level) (other : RouterId)
    (patterns : PatternSet) (least : Level) (sink : SinkId) :
    (w.attach other patterns least sink).1.Wants router logger level := by
  unfold World.attach
  cases found : w.router? other with
  | none => exact wanted
  | some there =>
    obtain ⟨welcome, route, held, admitted⟩ := wanted
    dsimp only
    refine ⟨?_, route, ?_, admitted⟩
    · rw [ownEvents?_attached found]
      exact welcome
    · rw [table_attached found]
      exact List.mem_append_left _ held

end World

namespace Client

/-- Every route leads to a sink that was made. -/
theorem Lawful.isSome_frozen? {c : Course} (lawful : Lawful c) {id : RouterId} {route : Route}
    (held : route ∈ c.world.table id) : (c.world.frozen? route.sink).isSome := by
  have owned := lawful.owned
  rcases List.mem_append.mp ((lawful.tabled.held id).mem_iff.mp held) with own | others
  · obtain ⟨handle, member, attached⟩ := List.mem_filterMap.mp own
    rw [← (of_handle_route attached).2.2]
    exact owned.made _ (owned.routed handle member)
  · obtain ⟨session, member, attached⟩ := List.mem_filterMap.mp others
    rw [(of_session_route attached).2.2, owned.frozen session member]
    rfl

/-- In every state of every run a router says beforehand whether it wants a name and a severity, and
it does so by its routes and by what it keeps away from. Log entries are formatted and events built
just when it does. If it does not, nothing that is emitted changes anything; if it does, and no
admitting route leads to a frozen sink, a ready event is delivered once for every admitting route.
It still does when the severity is raised, and when routes are attached to any router. -/
theorem interest_exact (origin : Instant) (actions : List Action) {c : Course}
    (reached : c ∈ trail actions (Course.start origin)) (router : RouterId) (target : String)
    (level : Level) :
    let w := c.world
    let logger := Name.ofTarget target
    let interested := w.isInterested router logger level
    let admitting := (w.table router).filter (·.admits logger level)
    (interested = true ↔ w.Wants router logger level) ∧
      w.SaysAhead router target level interested ∧
      (interested = false → w.Unmoved router target level) ∧
      (interested = true →
        (1 ≤ admitting.length ∧
            ((∀ route ∈ admitting, w.frozen? route.sink ≠ some true) →
              ∀ event : Event, event.logger = logger → event.level = level →
                (w.dispatch router event).2 = admitting.length)) ∧
          (∀ higher, level ≤ higher → w.isInterested router logger higher = true) ∧
          ∀ other patterns least sink,
            (w.attach other patterns least sink).1.isInterested router logger level = true) := by
  intro w logger interested admitting
  have lawful := lawful_of_mem_trail reached
  refine ⟨World.isInterested_iff, w.saysAhead router target level,
    World.unmoved_of_uninterested, fun interest => ?_⟩
  have wanted : w.Wants router logger level := World.isInterested_iff.mp interest
  refine ⟨⟨wanted.one_le_length, fun unfrozen event => ?_⟩, fun higher raised => ?_,
    fun other patterns least sink => ?_⟩
  · have opened : ∀ route ∈ admitting, w.frozen? route.sink = some false := by
      intro route among
      have made := lawful.isSome_frozen? (List.mem_filter.mp among).1
      obtain ⟨frozen, there⟩ := Option.isSome_iff_exists.mp made
      cases frozen with
      | false => exact there
      | true => exact absurd there (unfrozen route among)
    exact World.dispatch_count_of_open wanted opened
  · exact World.isInterested_iff.mpr (wanted.of_le raised)
  · exact World.isInterested_iff.mpr (wanted.attach other patterns least sink)

/-- Three routes to two sinks, of which the last admits errors alone. -/
def threeRoutes (parts everything : PatternSet) : List Action :=
  [.newSink, .newSink, .attach ⟨0⟩ parts .warn 0, .attach ⟨0⟩ everything .info 1,
    .attach ⟨0⟩ everything .error 0]

/-- A warning is of interest to two of the routes, and an own event to none. -/
theorem interest_exact_threeRoutes :
    let attachments := threeRoutes ⟨[.descendants "app"], by decide⟩ ⟨[.any], by decide⟩
    let c := runAll attachments (Course.start ⟨0, 0⟩)
    let event := Event.plain .warn "app.part" "full"
    c ∈ trail attachments (Course.start ⟨0, 0⟩) ∧
      c.world.logEnabled ⟨0⟩ "app::part" .warn = true ∧
      (c.world.dispatch ⟨0⟩ event).2 = 2 ∧
      c.world.isInterested ⟨0⟩ "app.part" .error = true ∧
      c.world.Unmoved ⟨0⟩ "logcap_core::session" .error := by
  intro attachments c event
  have reached := runAll_mem_trail attachments (Course.start ⟨0, 0⟩)
  obtain ⟨_, _, _, delivers⟩ := interest_exact ⟨0, 0⟩ attachments reached ⟨0⟩ "app::part" .warn
  obtain ⟨_, _, unmoved, _⟩ :=
    interest_exact ⟨0, 0⟩ attachments reached ⟨0⟩ "logcap_core::session" .error
  have enabled : c.world.logEnabled ⟨0⟩ "app::part" .warn = true := by decide +kernel
  obtain ⟨⟨_, count⟩, raised, _⟩ := delivers enabled
  refine ⟨reached, enabled, ?_, raised .error (by decide), unmoved (by decide +kernel)⟩
  rw [count (by decide +kernel) event (by decide +kernel) rfl]
  decide +kernel

end Client

end EventCapture
