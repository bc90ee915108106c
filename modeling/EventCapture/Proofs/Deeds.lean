import EventCapture.Proofs.Capture

/-! What is done to one session, and what becomes of it by that alone.

Nothing but emissions to its router, drains and its closing can change what a session shows, and the
log tells of all of them. So a session seen by itself, with numbers and events but without times, is
a function of the deeds that the log tells of, whatever else happens in its world.
-/

set_option autoImplicit false

namespace EventCapture

/-- What of a record does not depend on the clock: its number and its event. -/
def Record.timeless (record : Record) : Nat × Event := (record.seq, record.event)

inductive Deed where
  | opened
  /-- An event came to the router of the session, which does not keep away from it. -/
  | emitted (event : Event)
  | drained
  | closed
  deriving DecidableEq, Repr

/-- A session seen by itself, without a clock. -/
structure Solo where
  router : RouterId
  patterns : PatternSet
  least : Level
  renderLimit : Nat
  closed : Bool
  next : Nat
  kept : List (Nat × Event)
  deriving DecidableEq, Repr

namespace Solo

def after (solo : Solo) : Deed → Solo
  | .opened => solo
  | .emitted event =>
    if decide (solo.least ≤ event.level) && solo.patterns.matchesName event.logger &&
        !solo.closed then
      { solo with next := solo.next + 1, kept := solo.kept ++ [(solo.next, event)] }
    else solo
  | .drained => if solo.closed then solo else { solo with kept := [] }
  | .closed => { solo with closed := true }

def afterAll (solo : Solo) (deeds : List Deed) : Solo := deeds.foldl after solo

theorem afterAll_append (solo : Solo) (deeds more : List Deed) :
    solo.afterAll (deeds ++ more) = (solo.afterAll deeds).afterAll more := List.foldl_append

theorem router_after (solo : Solo) (deed : Deed) : (solo.after deed).router = solo.router := by
  unfold after
  split
  · rfl
  · split <;> rfl
  · split <;> rfl
  · rfl

theorem router_afterAll (solo : Solo) (deeds : List Deed) :
    (solo.afterAll deeds).router = solo.router := by
  induction deeds generalizing solo with
  | nil => rfl
  | cons deed rest ih => exact (ih (solo.after deed)).trans (solo.router_after deed)

end Solo

namespace Session

def solo (session : Session) (sink : Sink) : Solo :=
  ⟨session.router, session.patterns, session.least, session.renderLimit, session.isClosed,
    sink.nextSeq, sink.records.map Record.timeless⟩

variable (session : Session) {sink : Sink} (frozen : sink.sealed = session.isClosed)

include frozen in
theorem solo_record {event : Event}
    (asked : (session.asksFor event.logger event.level && !session.isClosed) = true) (now : Nat) :
    session.solo (sink.record now event).1 = (session.solo sink).after (.emitted event) := by
  have unsealed : sink.sealed = false := by
    rw [frozen]
    simpa using (Bool.and_eq_true_iff.mp asked).2
  have next : (sink.record now event).1.nextSeq = sink.nextSeq + 1 := by
    simp only [Sink.record, unsealed, Bool.false_eq_true, if_false]
    exact Sink.nextSeq_push _ _
  have records : (sink.record now event).1.records.map Record.timeless =
      sink.records.map Record.timeless ++ [(sink.nextSeq, event)] := by
    simp [Sink.records_record, unsealed, SinkClock.stamp, Record.timeless]
  rw [solo, next, records]
  exact (if_pos asked).symm

theorem solo_unasked {event : Event}
    (unasked : (session.asksFor event.logger event.level && !session.isClosed) = false) :
    (session.solo sink).after (.emitted event) = session.solo sink :=
  if_neg (Bool.eq_false_iff.mp unasked)

include frozen in
theorem solo_drain : session.solo sink.drain.1 = (session.solo sink).after .drained := by
  unfold Sink.drain Solo.after solo
  rw [frozen]
  cases session.isClosed <;> rfl

theorem solo_freeze :
    ({ session with phase := .closed } : Session).solo sink.freeze.1 =
      (session.solo sink).after .closed := rfl

end Session

namespace World

def solo? (w : World) (ref : SessionRef) : Option Solo :=
  (w.session? ref).bind fun session => (w.sink? session.sink).map session.solo

theorem solo?_eq {w : World} {ref : SessionRef} {session : Session} {sink : Sink}
    (found : w.session? ref = some session) (held : w.sink? session.sink = some sink) :
    w.solo? ref = some (session.solo sink) := by
  rw [solo?, found, Option.bind_some, held, Option.map_some]

section

variable {w : World} {ref : SessionRef} {session : Session} {sink : Sink}
  (found : w.session? ref = some session) (held : w.sink? session.sink = some sink)

include found held

theorem solo?_drain (frozen : sink.sealed = session.isClosed) :
    (w.drain session.sink).1.solo? ref = some ((session.solo sink).after .drained) := by
  have kept := ((steady_drain w session.sink).session? ref).trans found
  have drained : (w.drain session.sink).1.sink? session.sink = some sink.drain.1 := by
    rw [sink?_drain, if_pos rfl, held, Option.map_some]
  rw [solo?_eq kept drained, session.solo_drain frozen]

theorem solo?_retire :
    (w.retire ref session).solo? ref = some ((session.solo sink).after .closed) := by
  have marked : (w.retire ref session).session? ref = some { session with phase := .closed } := by
    rw [session?_retire, if_pos rfl, found, Option.map_some]
  have kept : (w.retire ref session).sink? session.sink = some sink.freeze.1 := by
    rw [sink?_retire, if_pos rfl, held, Option.map_some]
  rw [solo?_eq marked kept, session.solo_freeze]

end

end World

namespace Client

/-- What a happening does to a session on a router that keeps away from own events. -/
def Happening.deed? (router : RouterId) (ref : SessionRef) : Happening → Option Deed
  | .opened session => if session = ref then some .opened else none
  | .closed session => if session = ref then some .closed else none
  | .drained session _ => if session = ref then some .drained else none
  | .emitted _ target event =>
    if target = router ∧ Router.isOwnName event.logger = false then some (.emitted event) else none

theorem eq_opened_of_deed? {router : RouterId} {ref : SessionRef} {happening : Happening}
    (meant : happening.deed? router ref = some .opened) : happening = .opened ref := by
  cases happening with
  | opened other =>
    obtain ⟨rfl, _⟩ := Option.ite_none_right_eq_some.mp meant
    rfl
  | closed | drained | emitted =>
    obtain ⟨_, other⟩ := Option.ite_none_right_eq_some.mp meant
    simp at other

theorem deed?_of_own {event : Event} (own : Router.isOwnName event.logger = true) (place : Nat)
    (router target : RouterId) (ref : SessionRef) :
    (Happening.emitted place target event).deed? router ref = none := by
  simp [Happening.deed?, own]

namespace Course

/-- All that the log tells of one session. -/
def deeds (c : Course) (router : RouterId) (ref : SessionRef) : List Deed :=
  c.log.filterMap (Happening.deed? router ref)

theorem deeds_noted (c : Course) (happening : Happening) (router : RouterId) (ref : SessionRef) :
    (c.noted happening).deeds router ref =
      c.deeds router ref ++ (happening.deed? router ref).toList := by
  unfold deeds noted
  rw [List.filterMap_append]
  cases told : happening.deed? router ref <;> simp [told]

/-- An event of this library itself concerns no session on such a router. -/
theorem deeds_reported (c : Course) {event : Facade.TraceEvent}
    (own : Router.isOwnName event.captured.logger = true) (router : RouterId) (ref : SessionRef) :
    (c.reported event).deeds router ref = c.deeds router ref := by
  rw [reported, notedReady, deeds_noted, deed?_of_own own]
  exact List.append_nil _

end Course

/-- Reports on sessions bear a name of this library itself. -/
theorem isOwnName_report (operation : Operation) (session : operation.component = Session.component)
    (level : Level) (happening : String) (rest : List Facade.Visit) :
    Router.isOwnName (operation.report level happening rest).captured.logger = true := by
  change Router.isOwnName (Name.ofTarget operation.component) = true
  rw [session]
  decide

/-! ### Moves -/

/-- What a move does to one session: nothing at all, or it drains it, or it closes it. -/
inductive Upon (c : Course) (ref : SessionRef) (session : Session) : Course → Prop where
  | apart {d : Course} (found : d.world.session? ref = some session)
      (sink : d.world.sink? session.sink = c.world.sink? session.sink)
      (deeds : ∀ router, d.deeds router ref = c.deeds router ref) : Upon c ref session d
  | drained :
      Upon c ref session ((c.moved (c.world.drain session.sink).1).noted
        (.drained ref (c.world.drain session.sink).2))
  | closed (unclosed : session.isClosed = false) :
      Upon c ref session ((c.moved (c.world.retire ref session)).noted (.closed ref))

theorem Move.upon {c d : Course} (step : Move c d) (lawful : Lawful c) {ref : SessionRef}
    {session : Session} (found : c.world.session? ref = some session) : Upon c ref session d := by
  have owned := lawful.owned
  have member := World.mem_of_session? found
  have bound := owned.session_lt member
  have foreign := owned.foreign session member
  cases step with
  | idle sinks routers sessions =>
    refine .apart ?_ (congrArg (·[session.sink.index]?) sinks) fun _ => rfl
    exact (congrArg (·[ref.index]?) sessions).trans found
  | newRouter | attach => exact .apart found rfl fun _ => rfl
  | newSink wall => exact .apart found (World.sink?_append _ rfl bound) fun _ => rfl
  | touch own sink =>
    have kept := World.sink?_setSink_of_ne c.world sink fun same : session.sink = _ =>
      foreign (same ▸ own)
    exact .apart found kept fun _ => rfl
  | @detach place handle held =>
    refine .apart ?_ (World.sink?_detach _ _ _ _) fun _ => rfl
    exact (congrArg (·[ref.index]?) (World.sessions_detach _ _ _)).trans found
  | opened wall there sink phase =>
    have other : ref ≠ ⟨c.world.sessions.length⟩ := World.ne_next_of_session? found
    refine .apart ?_ (World.sink?_append _ rfl bound) fun router => ?_
    · exact (World.session?_enlist _ _ _ _ _).trans ((if_neg other).trans found)
    · rw [Course.deeds_noted, Happening.deed?, if_neg (Ne.symm other)]
      exact List.append_nil _
  | @drained other there held =>
    by_cases same : other = ref
    · subst same
      obtain rfl := Option.some.inj (found.symm.trans held)
      exact .drained
    · have apart : session.sink ≠ there.sink := fun sinks =>
        same (owned.ref_eq found held sinks).symm
      refine .apart ?_ (World.sink?_drain_of_ne _ apart) fun router => ?_
      · exact ((World.steady_drain c.world there.sink).session? ref).trans found
      · rw [Course.deeds_noted, Happening.deed?, if_neg same]
        exact List.append_nil _
  | @closed other there held unclosed =>
    by_cases same : other = ref
    · subst same
      obtain rfl := Option.some.inj (found.symm.trans held)
      exact .closed unclosed
    · have apart : session.sink ≠ there.sink := fun sinks =>
        same (owned.ref_eq found held sinks).symm
      refine .apart ?_ ((World.sink?_retire _ _ _ _).trans (if_neg apart)) fun router => ?_
      · exact (World.session?_retire _ _ _ _).trans ((if_neg (Ne.symm same)).trans found)
      · rw [Course.deeds_noted, Happening.deed?, if_neg same]
        exact List.append_nil _

/-! ### Straight passages -/

theorem Lawful.held {c : Course} (lawful : Lawful c) {session : Session}
    (member : session ∈ c.world.sessions) :
    ∃ sink, c.world.sink? session.sink = some sink ∧ sink.sealed = session.isClosed :=
  Option.map_eq_some_iff.mp (lawful.owned.frozen session member)

theorem Lawful.of_solo? {c : Course} (lawful : Lawful c) {ref : SessionRef} {solo : Solo}
    (shown : c.world.solo? ref = some solo) :
    ∃ session sink, c.world.session? ref = some session ∧
      c.world.sink? session.sink = some sink ∧ sink.sealed = session.isClosed ∧
        session.solo sink = solo := by
  obtain ⟨session, found, seen⟩ := Option.bind_eq_some_iff.mp shown
  obtain ⟨sink, held, frozen⟩ := lawful.held (World.mem_of_session? found)
  rw [held, Option.map_some, Option.some.injEq] at seen
  exact ⟨session, sink, found, held, frozen, seen⟩

/-- A session takes an emission as the log tells of it: once, if it asks for the event and is not
closed. -/
theorem Lawful.solo_emit {c : Course} (lawful : Lawful c) {ref : SessionRef} {solo : Solo}
    (shown : c.world.solo? ref = some solo) (plain : c.world.ownEvents? solo.router = some false)
    (router : RouterId) (event : Event) :
    (c.emit c router event).world.solo? ref =
      some (solo.afterAll
        ((Happening.emitted c.log.length router event).deed? solo.router ref).toList) := by
  obtain ⟨session, sink, found, held, frozen, rfl⟩ := lawful.of_solo? shown
  let targets := c.world.select router event.logger event.level
  have steady := World.steady_recordAll c.world targets event
  have recorded := World.sink?_recordAll c.world targets event session.sink
  have kept := (steady.session? ref).trans found
  have seen := World.solo?_eq kept (recorded.trans (by rw [held]; rfl))
  refine Eq.trans seen (congrArg some ?_)
  have ignored : c.world.ignores session.router event.logger =
      Router.isOwnName event.logger := by
    have known : c.world.ownEvents? session.router = some false := plain
    simp [World.ignores, known]
  rw [lawful.count_select (World.mem_of_session? found), ignored]
  by_cases here : router = session.router ∧ Router.isOwnName event.logger = false
  · obtain ⟨rfl, foreign⟩ := here
    have told : (Happening.emitted c.log.length session.router event).deed?
        (session.solo sink).router ref = some (.emitted event) := if_pos ⟨rfl, foreign⟩
    rw [told, foreign]
    simp only [beq_self_eq_true, Bool.not_false, Bool.true_and]
    cases asked : session.asksFor event.logger event.level && !session.isClosed with
    | true =>
      rw [if_pos rfl, Function.iterate_one]
      exact session.solo_record frozen asked c.world.elapsed
    | false =>
      rw [if_neg Bool.false_ne_true, Function.iterate_zero]
      exact (session.solo_unasked asked).symm
  · have untold : (Happening.emitted c.log.length router event).deed?
        (session.solo sink).router ref = none := if_neg here
    have missed : (router == session.router && !Router.isOwnName event.logger) = false := by
      simpa using here
    rw [untold, missed]
    rfl

/-- What a straight passage makes of a session is told by the log. -/
theorem Straight.solo {nanos : Nat} {a b : Course} (straight : Straight nanos a b)
    (lawful : Lawful a) {ref : SessionRef} {solo : Solo} (shown : a.world.solo? ref = some solo)
    (plain : a.world.ownEvents? solo.router = some false) :
    ∃ more, b.deeds solo.router ref = a.deeds solo.router ref ++ more ∧
      b.world.solo? ref = some (solo.afterAll more) := by
  induction straight with
  | rest => exact ⟨[], (List.append_nil _).symm, shown⟩
  | pass more _ ih => exact ih lawful shown plain
  | @move nanos a b c before step _ ih =>
    obtain ⟨more, told, there⟩ := ih lawful shown plain
    have later := before.passage.lawful lawful
    obtain ⟨session, sink, found, held, frozen, same⟩ := later.of_solo? there
    have grown {w : World} {happening : Happening} {deed : Deed}
        (meant : happening.deed? solo.router ref = some deed)
        (seen : w.solo? ref = some ((session.solo sink).after deed)) :
        ∃ all, ((b.moved w).noted happening).deeds solo.router ref =
            a.deeds solo.router ref ++ all ∧ w.solo? ref = some (solo.afterAll all) := by
      refine ⟨more ++ [deed], ?_, ?_⟩
      · rw [Course.deeds_noted, meant, ← List.append_assoc, ← told]
        rfl
      · rw [seen, same, solo.afterAll_append]
        rfl
    cases step.upon later found with
    | apart kept unchanged silent =>
      refine ⟨more, (silent _).trans told, ?_⟩
      rw [World.solo?_eq kept (unchanged.trans held), same]
    | drained => exact grown (if_pos rfl) (World.solo?_drain found held frozen)
    | closed unclosed => exact grown (if_pos rfl) (World.solo?_retire found held)
  | @emit nanos a b router event before ih =>
    obtain ⟨more, told, there⟩ := ih lawful shown plain
    have same := solo.router_afterAll more
    have known := before.passage.leads.routers _ _ plain
    have emitted := (before.passage.lawful lawful).solo_emit there (same ▸ known) router event
    rw [same, ← solo.afterAll_append] at emitted
    refine ⟨_, ?_, emitted⟩
    rw [Course.emit, Course.deeds_noted, ← List.append_assoc, ← told]
    rfl

/-! ### Actions -/

/-- What an action that opens nothing does to a session. -/
def Action.deeds (router : RouterId) (ref : SessionRef) (c : Course) : Action → List Deed
  | .dispatch target event | .dispatchWith target event _ => emitted c target event
  | .trace event => emitted c c.world.subscriber event.captured
  | .log target entry _ => emitted c target entry.captured
  | .drain session =>
    (c.world.session? session).elim [] fun _ => if session = ref then [.drained] else []
  | .close session | .drop session =>
    (c.world.session? session).elim [] fun there =>
      if !there.isClosed ∧ session = ref then [.closed] else []
  | _ => []
where
  emitted (c : Course) (target : RouterId) (event : Event) : List Deed :=
    ((Happening.emitted c.log.length target event).deed? router ref).toList

section

variable (c : Course) (router : RouterId) (ref : SessionRef)

theorem deeds_emit (target : RouterId) (event : Event) :
    (c.emit c target event).deeds router ref =
      c.deeds router ref ++ Action.deeds.emitted router ref c target event :=
  Course.deeds_noted _ _ router ref

theorem deeds_onSink (place : Nat) (change : World → SinkId → World) :
    (c.onSink place change).deeds router ref = c.deeds router ref := by
  unfold Course.onSink
  cases c.sinks[place]? <;> rfl

theorem deeds_drain (session : SessionRef) :
    (c.drain session).deeds router ref =
      c.deeds router ref ++ (Action.drain session).deeds router ref c := by
  simp only [Course.drain, Action.deeds]
  cases c.world.session? session with
  | none => exact (List.append_nil _).symm
  | some there =>
    simp only [Option.elim_some, Course.deeds_noted, Happening.deed?]
    split <;> rfl

/-- Only the first closing counts. -/
theorem deeds_close (session : SessionRef) :
    (c.close session).deeds router ref =
      c.deeds router ref ++ (Action.close session).deeds router ref c := by
  simp only [Course.close, Action.deeds]
  cases c.world.session? session with
  | none => exact (List.append_nil _).symm
  | some there =>
    cases closed : there.isClosed with
    | true =>
      simp only [closed, if_true, Option.elim_some]
      exact (List.append_nil _).symm
    | false =>
      simp only [closed, Bool.false_eq_true, if_false, Option.elim_some]
      refine (Course.deeds_reported _ (isOwnName_report Session.closing rfl _ _ _) _ _).trans ?_
      rw [Course.deeds_noted, Happening.deed?]
      by_cases here : session = ref <;> simp [here] <;> rfl

theorem deeds_waitFor (session : SessionRef) (filter : Filter) (policy : WaitPolicy) :
    (c.waitFor session filter policy).deeds router ref = c.deeds router ref := by
  unfold Course.waitFor
  dsimp only
  split
  · rfl
  · exact Course.deeds_reported _ (isOwnName_report _ rfl _ _ _) router ref

theorem deeds_report {event : Facade.TraceEvent}
    (own : Router.isOwnName event.captured.logger = true) :
    (c.report event).deeds router ref = c.deeds router ref := by
  rw [← reported_trace]
  exact Course.deeds_reported _ own router ref

/-- Opening a session is no deed on another one. -/
theorem deeds_openAs (opening : Opening) (there : (c.world.session? ref).isSome) :
    (c.openAs opening).deeds router ref = c.deeds router ref := by
  obtain ⟨session, found⟩ := Option.isSome_iff_exists.mp there
  unfold Course.openAs
  split
  · rfl
  · split
    · exact deeds_report c router ref (isOwnName_report _ rfl _ _ _)
    · split
      · rfl
      · have other : (⟨c.world.sessions.length⟩ : SessionRef) ≠ ref :=
          (World.ne_next_of_session? found).symm
        refine (deeds_report _ router ref (isOwnName_report Session.opening rfl _ _ _)).trans ?_
        rw [Course.enlisted, Course.deeds_noted, Happening.deed?, if_neg other]
        exact List.append_nil _

/-- The log tells of an action what it does to a session, if it does not open just that one. -/
theorem Action.run_deeds {action : Action} (ready : action.isReady = true)
    (known : action.opening? = none ∨ (c.world.session? ref).isSome) :
    (action.run c).deeds router ref = c.deeds router ref ++ action.deeds router ref c := by
  have unchanged {d : Course} (same : d.log = c.log) :
      d.deeds router ref = c.deeds router ref ++ [] := by
    rw [List.append_nil, Course.deeds, same]
    rfl
  cases action with
  | advance | newRouter => exact unchanged rfl
  | newSink =>
    apply unchanged
    simp only [Action.run]
    split <;> rfl
  | attach target patterns least place =>
    apply unchanged
    simp only [Action.run, Course.attach]
    split
    · rfl
    · split <;> rfl
  | detach place =>
    apply unchanged
    simp only [Action.run, Course.detach]
    split <;> rfl
  | dispatch target event =>
    rw [run_dispatch]
    exact deeds_emit c router ref target event
  | dispatchWith target event nested =>
    obtain rfl := List.isEmpty_iff.mp ready
    rw [run_dispatchWith_ready]
    exact deeds_emit c router ref target event
  | trace event =>
    rw [run_trace]
    exact deeds_emit c router ref _ _
  | log target entry nested =>
    obtain rfl := List.isEmpty_iff.mp ready
    rw [run_log_ready]
    exact deeds_emit c router ref target _
  | within => contradiction
  | openSession | openWithSettings =>
    have there : (c.world.session? ref).isSome = true := known.resolve_left (by simp [opening?])
    rw [run_opening rfl]
    exact (deeds_openAs c router ref _ there).trans (List.append_nil _).symm
  | record | drainSink | freeze =>
    simp only [Action.run]
    exact (deeds_onSink c router ref _ _).trans (List.append_nil _).symm
  | drain session =>
    simp only [Action.run]
    exact deeds_drain c router ref session
  | waitFor session filter policy =>
    simp only [Action.run]
    exact (deeds_waitFor c router ref _ _ _).trans (List.append_nil _).symm
  | close session =>
    simp only [Action.run]
    exact deeds_close c router ref session
  | drop session =>
    rw [run_drop]
    exact deeds_close c router ref session

theorem opened_not_mem_deeds (action : Action) : .opened ∉ action.deeds router ref c := by
  have emitted (target : RouterId) (event : Event) :
      .opened ∉ Action.deeds.emitted router ref c target event := by
    unfold Action.deeds.emitted Happening.deed?
    dsimp only
    split <;> simp
  cases action with
  | dispatch | dispatchWith | trace | log => exact emitted _ _
  | drain session | close session | drop session =>
    simp only [Action.deeds]
    cases c.world.session? session <;> simp
  | _ => exact List.not_mem_nil

end

end Client

end EventCapture
