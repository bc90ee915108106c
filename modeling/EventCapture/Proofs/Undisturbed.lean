import EventCapture.Proofs.AtRest
import EventCapture.Proofs.Shifted

/-! Sessions do not disturb each other.

A run is compared with the one that is left of it when nothing is done on other sessions and the
client attaches and detaches no routes to the router of the session. The other sessions take numbers
of routes and sinks and places in the table, and they report to the very router under watch; none of
this shows. Only time passes differently, since a wait that is left out takes none.
-/

set_option autoImplicit false

namespace EventCapture

def Snapshot.timeless (snapshot : Snapshot) : List (Nat × Event) × Bool :=
  (snapshot.records.map Record.timeless, snapshot.final)

namespace Client

namespace Action

/-- The session that an action is about, unless it opens one. -/
def session? : Action → Option SessionRef
  | .drain session | .waitFor session _ _ | .close session | .drop session => some session
  | _ => none

/-- The same, done to the first session. -/
def onFirst : Action → Action
  | .drain _ => .drain ⟨0⟩
  | .waitFor _ filter policy => .waitFor ⟨0⟩ filter policy
  | .close _ => .close ⟨0⟩
  | .drop _ => .drop ⟨0⟩
  | action => action

/-- Whether an action opens just this session. -/
def opens (ref : SessionRef) (c : Course) (action : Action) : Bool :=
  (c.world.session? ref).isNone && ((action.run c).world.session? ref).isSome

/-- What is left of an action when nothing is done on other sessions than one, and the client
attaches and detaches no routes to a router. The session is the first one then, and the handles that
are left move up. -/
def staying? (router : RouterId) (own : SessionRef) (c : Course) (action : Action) :
    Option Action :=
  match action.session?, action with
  | some session, action => if session = own then some action.onFirst else none
  | none, .attach target patterns least sink =>
    if target = router then none else some (.attach target patterns least sink)
  | none, .detach place =>
    (c.handles[place]?).bind fun handle =>
      if handle.router = router then none
      else some (.detach ((c.handles.take place).countP (·.router != router)))
  | none, action => if action.opening?.isNone || action.opens own c then some action else none

end Action

/-- What is left of a run that begins at a state. -/
def withoutOthers (router : RouterId) (own : SessionRef) : List Action → Course → List Action
  | [], _ => []
  | action :: rest, c =>
    (action.staying? router own c).toList ++ withoutOthers router own rest (action.run c)

theorem withoutOthers_append (router : RouterId) (own : SessionRef) (actions more : List Action)
    (c : Course) :
    withoutOthers router own (actions ++ more) c =
      withoutOthers router own actions c ++
        withoutOthers router own more (runAll actions c) := by
  induction actions generalizing c with
  | nil => rfl
  | cons action rest ih =>
    simp only [List.cons_append, withoutOthers, ih, List.append_assoc]
    rfl

/-- A state at which nothing was opened and nothing attached yet, and the subscriber is a router
that keeps away from own events. -/
structure Blank (router : RouterId) (c : Course) : Prop where
  sessions : c.world.sessions = []
  handles : c.handles = []
  plain : c.world.ownEvents? router = some false
  subscribed : c.world.subscriber = router

/-- A state of a run in which such a router is the subscriber. -/
structure Heard (router : RouterId) (c : Course) : Prop where
  lawful : Lawful c
  faithful : Faithful c
  plain : c.world.ownEvents? router = some false
  subscribed : c.world.subscriber = router

theorem Heard.straight {router : RouterId} {nanos : Nat} {a b : Course} (heard : Heard router a)
    (straight : Straight nanos a b) : Heard router b where
  lawful := straight.passage.lawful heard.lawful
  faithful := straight.passage.faithful heard.lawful heard.faithful
  plain := straight.passage.leads.routers router false heard.plain
  subscribed := straight.pace.subscriber.trans heard.subscribed

theorem Heard.run {router : RouterId} {c : Course} (heard : Heard router c) {action : Action}
    (ready : action.isReady = true) : Heard router (action.run c) :=
  have ⟨_, _, straight⟩ := action.run_straight c ready
  heard.straight straight

/-- An action does to a session what is told of it. -/
theorem Heard.solo_run {router : RouterId} {c : Course} (heard : Heard router c) {action : Action}
    (ready : action.isReady = true) {ref : SessionRef} {solo : Solo} (same : solo.router = router)
    (shown : c.world.solo? ref = some solo) :
    (action.run c).world.solo? ref = some (solo.afterAll (action.deeds router ref c)) := by
  obtain ⟨nanos, _, straight⟩ := action.run_straight c ready
  obtain ⟨session, sink, found, _⟩ := heard.lawful.of_solo? shown
  have there : (c.world.session? ref).isSome = true := by rw [found]; rfl
  subst same
  obtain ⟨more, told, seen⟩ := straight.solo heard.lawful shown heard.plain
  rw [action.run_deeds c solo.router ref ready (.inr there)] at told
  rw [List.append_cancel_left told]
  exact seen

/-! ### What is left of an action -/

section

variable {router : RouterId} {own : SessionRef} {c d : Course}

/-- What is left of an action is the same action, perhaps with another handle, or the same done to
the first session. -/
theorem staying_cases {action left : Action} (stays : action.staying? router own c = some left) :
    (action.session? = none ∧ (action.opening? = none ∨ action.opens own c = true) ∧
        left = action) ∨
      (∃ place other, action = .detach place ∧ left = .detach other) ∨
        action.session? = some own ∧ left = action.onFirst := by
  unfold Action.staying? at stays
  split at stays
  · next session about =>
    obtain ⟨rfl, left⟩ := Option.ite_none_right_eq_some.mp stays
    exact .inr (.inr ⟨about, (Option.some.inj left).symm⟩)
  · next about =>
    obtain ⟨_, left⟩ := Option.ite_none_left_eq_some.mp stays
    exact .inl ⟨about, .inl rfl, (Option.some.inj left).symm⟩
  · obtain ⟨handle, _, stays⟩ := Option.bind_eq_some_iff.mp stays
    obtain ⟨_, left⟩ := Option.ite_none_left_eq_some.mp stays
    exact .inr (.inl ⟨_, _, rfl, (Option.some.inj left).symm⟩)
  · next about =>
    obtain ⟨kept, left⟩ := Option.ite_none_right_eq_some.mp stays
    refine .inl ⟨about, ?_, (Option.some.inj left).symm⟩
    simpa using kept

/-- What is left out is about another session, or opens one, or is about a route of the client's. -/
theorem omitted_cases {action : Action} (omitted : action.staying? router own c = none) :
    (∃ other, action.session? = some other ∧ other ≠ own) ∨
      (action.opening?.isSome ∧ action.opens own c = false) ∨
        (∃ target patterns least sink, action = .attach target patterns least sink) ∨
          ∃ place, action = .detach place := by
  unfold Action.staying? at omitted
  split at omitted
  · next session about =>
    exact .inl ⟨session, about, by simpa using omitted⟩
  · exact .inr (.inr (.inl ⟨_, _, _, _, rfl⟩))
  · exact .inr (.inr (.inr ⟨_, rfl⟩))
  · refine .inr (.inl ?_)
    simpa [Option.isSome_iff_ne_none] using omitted

theorem Action.isReady_of_staying {action left : Action} (ready : action.isReady = true)
    (stays : action.staying? router own c = some left) : left.isReady = true := by
  obtain ⟨_, _, rfl⟩ | ⟨_, _, _, rfl⟩ | ⟨about, rfl⟩ := staying_cases stays
  · exact ready
  · rfl
  · cases action <;> first | rfl | contradiction

/-! ### Once the session is open -/

/-- A session of one state and the first of another are the same but for the times. -/
def Twins (router : RouterId) (own : SessionRef) (c d : Course) : Prop :=
  ∃ solo : Solo, solo.router = router ∧ c.world.solo? own = some solo ∧
    d.world.solo? ⟨0⟩ = some solo

/-- An action that is not about a session does the same to all of them. -/
theorem deeds_eq_of_sessionless {action : Action} (about : action.session? = none)
    (same : c.world.subscriber = d.world.subscriber) (ref other : SessionRef) :
    action.deeds router ref c = action.deeds router other d := by
  cases action with
  | drain | waitFor | close | drop => contradiction
  | trace event =>
    simp only [Action.deeds, same]
    rfl
  | _ => rfl

theorem deeds_of_other {action : Action} {ref : SessionRef} (about : action.session? = some ref)
    (other : ref ≠ own) : action.deeds router own c = [] := by
  cases action with
  | drain | close | drop =>
    obtain rfl := Option.some.inj about
    simp only [Action.deeds, other, and_false, if_false]
    cases c.world.session? _ <;> rfl
  | waitFor => rfl
  | _ => contradiction

/-- What is left of an action does the same to the session, and what is left out does nothing. -/
theorem Twins.deeds_eq (twins : Twins router own c d) (hc : Heard router c) (hd : Heard router d)
    (action : Action) :
    (action.staying? router own c).elim [] (·.deeds router ⟨0⟩ d) = action.deeds router own c := by
  obtain ⟨solo, _, full, alone⟩ := twins
  obtain ⟨session, _, found, _, _, same⟩ := hc.lawful.of_solo? full
  obtain ⟨twin, _, there, _, _, equal⟩ := hd.lawful.of_solo? alone
  have closed : twin.isClosed = session.isClosed := congrArg Solo.closed (equal.trans same.symm)
  have current := hc.subscribed.trans hd.subscribed.symm
  cases stays : action.staying? router own c with
  | some left =>
    obtain ⟨about, _, rfl⟩ | ⟨_, _, rfl, rfl⟩ | ⟨about, rfl⟩ := staying_cases stays
    · exact (deeds_eq_of_sessionless about current own ⟨0⟩).symm
    · rfl
    · cases action with
      | drain | close | drop =>
        obtain rfl := Option.some.inj about
        simp [Action.onFirst, Action.deeds, found, there, closed]
      | waitFor => rfl
      | _ => contradiction
  | none =>
    obtain ⟨other, about, apart⟩ | ⟨opening, _⟩ | ⟨_, _, _, _, rfl⟩ | ⟨_, rfl⟩ :=
      omitted_cases stays
    · exact (deeds_of_other about apart).symm
    · cases action <;> first | rfl | contradiction
    · rfl
    · rfl

theorem twins_step (twins : Twins router own c d) (hc : Heard router c) (hd : Heard router d)
    {action : Action} (ready : action.isReady = true) :
    Twins router own (action.run c) (runAll (action.staying? router own c).toList d) := by
  have told := Twins.deeds_eq twins hc hd action
  obtain ⟨solo, same, full, alone⟩ := twins
  have after := (solo.router_afterAll (action.deeds router own c)).trans same
  refine ⟨_, after, hc.solo_run ready same full, ?_⟩
  rw [← told]
  cases stays : action.staying? router own c with
  | none => exact alone
  | some left => exact hd.solo_run (Action.isReady_of_staying ready stays) same alone

/-! ### Before the session is open -/

theorem sessions_eq_nil {w : World} (missing : ∀ ref, w.session? ref = none) : w.sessions = [] := by
  refine List.eq_nil_iff_length_eq_zero.mpr (Nat.eq_zero_of_not_pos fun some => ?_)
  have there := missing ⟨0⟩
  exact absurd (List.getElem?_eq_none_iff.mp there) (Nat.not_le_of_lt some)

theorem session?_of_nil {w : World} (none : w.sessions = []) (ref : SessionRef) :
    w.session? ref = Option.none := by
  unfold World.session?
  rw [none]
  rfl

/-- No session goes away. -/
theorem Leads.nil_of_nil (leads : Leads c d) (none : d.world.sessions = []) :
    c.world.sessions = [] := by
  refine sessions_eq_nil fun ref => Option.eq_none_iff_forall_ne_some.mpr fun session found => ?_
  obtain ⟨_, kept, _⟩ := leads.sessions ref session found
  rw [session?_of_nil none] at kept
  contradiction

/-- Only an opening makes a session. -/
theorem Heard.session_before (heard : Heard router c) {action : Action}
    (ready : action.isReady = true) (plain : action.opening? = none) {ref : SessionRef}
    {session : Session} (found : (action.run c).world.session? ref = some session) :
    (c.world.session? ref).isSome = true := by
  have logged := (heard.run ready).faithful.opened ref session found
  have told : .opened ∈ (action.run c).deeds router ref :=
    List.mem_filterMap.mpr ⟨_, logged, if_pos rfl⟩
  rw [action.run_deeds c router ref ready (.inl plain), List.mem_append] at told
  obtain ⟨happening, member, meant⟩ :=
    List.mem_filterMap.mp (told.resolve_right (opened_not_mem_deeds c router ref action))
  rw [eq_opened_of_deed? meant] at member
  exact heard.faithful.known _ member ref rfl

theorem Heard.nil_run (heard : Heard router c) {action : Action} (ready : action.isReady = true)
    (plain : action.opening? = none) (none : c.world.sessions = []) :
    (action.run c).world.sessions = [] := by
  refine sessions_eq_nil fun ref => Option.eq_none_iff_forall_ne_some.mpr fun session found => ?_
  have there := heard.session_before ready plain found
  rw [session?_of_nil none] at there
  contradiction

/-- The first session of a run has not been opened in it, and what is left of it has opened none. -/
structure Awaiting (own : SessionRef) (c d : Course) : Prop where
  missing : c.world.session? own = none
  blank : d.world.sessions = []
  origin : d.world.origin = c.world.origin
  behind : d.world.elapsed ≤ c.world.elapsed
  /-- As long as there is no session, nobody waits. -/
  level : c.world.sessions = [] → d.world.elapsed = c.world.elapsed
  /-- Since the first opening the time of day was of use. -/
  dated : c.world.sessions ≠ [] → ∃ reading ≤ d.world.elapsed, ∃ wall,
    Instant.usable .session (c.world.origin.shift? reading) = .ok wall

theorem Awaiting.dated_run (awaiting : Awaiting own c d) (hc : Heard router c) {action : Action}
    (ready : action.isReady = true) (made : (action.run c).world.sessions ≠ []) :
    ∃ reading ≤ d.world.elapsed, ∃ wall,
      Instant.usable .session (c.world.origin.shift? reading) = .ok wall := by
  by_cases before : c.world.sessions = []
  · -- The first session is being opened, and so far both runs have taken the same time.
    have now : d.world.elapsed = c.world.elapsed := awaiting.level before
    cases asked : action.opening? with
    | none => exact absurd (hc.nil_run ready asked before) made
    | some opening =>
      rw [run_opening asked] at made
      obtain same | ⟨_, _, _, _, wall, _, _, timed⟩ := openAs_cases c opening
      · exact absurd (same.trans before) made
      · exact ⟨c.world.elapsed, Nat.le_of_eq now.symm, wall, timed⟩
  · exact awaiting.dated before

theorem Action.waits_of_nil {w : World} (none : w.sessions = []) (action : Action) :
    action.waits w = false := by
  cases action with
  | waitFor session => rw [Action.waits, session?_of_nil none, Option.isSome_none]
  | _ => rfl

/-- Before the session is open, what is left of an action is as quick as the action. -/
theorem span_of_staying {action left : Action} (stays : action.staying? router own c = some left)
    (missing : c.world.session? own = none) :
    left.span = action.span ∧ action.waits c.world = false ∧
      (left.opening? = none ∨ action.opens own c = true) := by
  obtain ⟨about, plain, rfl⟩ | ⟨_, _, rfl, rfl⟩ | ⟨about, rfl⟩ := staying_cases stays
  · refine ⟨rfl, ?_, plain⟩
    cases left <;> first | rfl | contradiction
  · exact ⟨rfl, rfl, .inl rfl⟩
  · cases action with
    | drain | close | drop => exact ⟨rfl, rfl, .inl rfl⟩
    | waitFor session =>
      obtain rfl := Option.some.inj about
      exact ⟨rfl, by rw [Action.waits, missing, Option.isSome_none], .inl rfl⟩
    | _ => contradiction

theorem span_of_omitted {action : Action} (omitted : action.staying? router own c = none) :
    action.span = 0 := by
  obtain ⟨_, about, _⟩ | ⟨opening, _⟩ | ⟨_, _, _, _, rfl⟩ | ⟨_, rfl⟩ := omitted_cases omitted
  · cases action <;> first | rfl | contradiction
  · cases action <;> first | rfl | contradiction
  · rfl
  · rfl

/-- What is left of an action takes no longer than the action, and just as long before the first
opening. -/
theorem Awaiting.left_run (awaiting : Awaiting own c d) (hd : Heard router d) {action : Action}
    (ready : action.isReady = true) (unopened : action.opens own c = false) {nanos : Nat}
    (brief : action.waits c.world = false → nanos = action.span) :
    ∃ more, more ≤ nanos ∧ (c.world.sessions = [] → more = nanos) ∧
      (runAll (action.staying? router own c).toList d).world.sessions = [] ∧
        World.AtOnce (d.world.advance more)
          (runAll (action.staying? router own c).toList d).world := by
  cases stays : action.staying? router own c with
  | none =>
    refine ⟨0, Nat.zero_le _, fun none => ?_, awaiting.blank, ⟨rfl, rfl, rfl⟩⟩
    rw [brief (action.waits_of_nil none), span_of_omitted stays]
  | some left =>
    obtain ⟨same, prompt, plain⟩ := span_of_staying stays awaiting.missing
    have plain : left.opening? = none := plain.resolve_right (by simp [unopened])
    have leftReady := Action.isReady_of_staying ready stays
    obtain ⟨more, short, straight⟩ := left.run_straight d leftReady
    have equal : more = nanos := by
      rw [short (left.waits_of_nil awaiting.blank), same, brief prompt]
    have blank := hd.nil_run leftReady plain awaiting.blank
    exact ⟨more, Nat.le_of_eq equal, fun _ => equal, blank, straight.pace⟩

theorem Awaiting.step (awaiting : Awaiting own c d) (hc : Heard router c) (hd : Heard router d)
    {action : Action} (ready : action.isReady = true)
    (missing : (action.run c).world.session? own = none) :
    Awaiting own (action.run c) (runAll (action.staying? router own c).toList d) := by
  obtain ⟨nanos, brief, straight⟩ := action.run_straight c ready
  have unopened : action.opens own c = false := by simp [Action.opens, missing]
  have dated := awaiting.dated_run hc ready
  obtain ⟨more, shorter, level, blank, alone⟩ := awaiting.left_run hd ready unopened brief
  have full := straight.pace
  have elapsed : (action.run c).world.elapsed = c.world.elapsed + nanos := full.elapsed
  have origin : (action.run c).world.origin = c.world.origin := full.origin
  have behind := awaiting.behind
  constructor
  · exact missing
  · exact blank
  · exact (alone.origin.trans awaiting.origin).trans origin.symm
  · rw [alone.elapsed, elapsed]
    exact Nat.add_le_add awaiting.behind shorter
  · intro none
    have before : c.world.sessions = [] := straight.passage.leads.nil_of_nil none
    rw [alone.elapsed, elapsed, ← awaiting.level before, level before]
    rfl
  · intro made
    obtain ⟨reading, early, wall, timed⟩ := dated made
    rw [alone.elapsed, origin]
    exact ⟨reading, Nat.le_add_right_of_le early, wall, timed⟩

/-! ### When the session is opened -/

theorem staying_of_opens {action : Action} {opening : Opening}
    (asked : action.opening? = some opening) (opens : action.opens own c = true) :
    action.staying? router own c = some action := by
  cases action with
  | openSession | openWithSettings => simp [Action.staying?, Action.session?, opens]
  | _ => contradiction

/-- A session begins with nothing, whatever the time of day. -/
theorem Heard.solo_openAs (heard : Heard router c) {opening : Opening}
    (routed : opening.router = router) {there : Router}
    (found : c.world.router? opening.router = some there) {patterns : PatternSet} {least : Level}
    {renderLimit : Nat} (settings : opening.settings = .ok (patterns, least, renderLimit))
    {wall : Instant} (timed : c.world.timeOfDay .session = .ok wall) :
    (c.openAs opening).world.solo? ⟨c.world.sessions.length⟩ =
      some ⟨router, patterns, least, renderLimit, false, 0, []⟩ := by
  subst routed
  let session := c.fresh opening there patterns least renderLimit
  let enlisted := c.enlisted there wall session
  let report := session.openingReport.captured
  have step : Move c enlisted := .opened wall found rfl rfl
  have later := heard.straight (.single step ⟨rfl, rfl, rfl⟩)
  have listed : enlisted.world.session? ⟨c.world.sessions.length⟩ = some session :=
    (World.session?_enlist _ _ _ _ _).trans (if_pos rfl)
  have held : enlisted.world.sink? session.sink = some (Sink.start c.world.elapsed wall) :=
    List.getElem?_concat_length
  have begun := World.solo?_eq listed held
  have reported := later.lawful.solo_emit begun later.plain enlisted.world.subscriber report
  have own : Router.isOwnName report.logger = true := isOwnName_report Session.opening rfl _ _ _
  rw [deed?_of_own own] at reported
  rw [openAs_of_timed found settings timed]
  exact reported

theorem Heard.router_there (heard : Heard router c) :
    ∃ there, c.world.router? router = some there := by
  obtain ⟨there, found, _⟩ := Option.map_eq_some_iff.mp heard.plain
  exact ⟨there, found⟩

/-- The time of day at which a session is opened is of use also when fewer have waited before. -/
theorem Awaiting.timed (awaiting : Awaiting own c d) {wall : Instant}
    (timed : c.world.timeOfDay .session = .ok wall) :
    ∃ earlier, d.world.timeOfDay .session = .ok earlier := by
  unfold World.timeOfDay at timed ⊢
  rw [awaiting.origin]
  by_cases before : c.world.sessions = []
  · rw [awaiting.level before]
    exact ⟨wall, timed⟩
  · obtain ⟨reading, early, usable⟩ := awaiting.dated before
    exact Instant.usable_between early awaiting.behind usable ⟨wall, timed⟩

/-- The action that opens the session opens it in what is left of the run, too. -/
theorem Awaiting.twins (awaiting : Awaiting own c d) (hc : Heard router c) (hd : Heard router d)
    {action : Action} (ready : action.isReady = true) {session : Session}
    (made : (action.run c).world.session? own = some session) (routed : session.router = router) :
    Twins router own (action.run c) (runAll (action.staying? router own c).toList d) := by
  have opens : action.opens own c = true := by simp [Action.opens, awaiting.missing, made]
  cases asked : action.opening? with
  | none =>
    have before := hc.session_before ready asked made
    rw [awaiting.missing] at before
    contradiction
  | some opening =>
    rw [staying_of_opens asked opens]
    simp only [Option.toList_some, runAll, run_opening asked] at made ⊢
    obtain same | ⟨there, patterns, least, renderLimit, wall, found, settings, timed⟩ :=
      openAs_cases c opening
    · have unchanged : (c.openAs opening).world.session? own = c.world.session? own :=
        congrArg (·[own.index]?) same
      rw [unchanged, awaiting.missing] at made
      contradiction
    · rw [session?_openAs found settings timed] at made
      obtain ⟨rfl, fresh⟩ : own = ⟨c.world.sessions.length⟩ ∧
          c.fresh opening there patterns least renderLimit = session := by
        split at made
        · next here => exact ⟨here, Option.some.inj made⟩
        · rw [awaiting.missing] at made
          contradiction
      have asked : opening.router = router := (congrArg Session.router fresh).trans routed
      obtain ⟨earlier, usable⟩ := awaiting.timed timed
      obtain ⟨twin, known⟩ := hd.router_there
      have first : d.world.sessions.length = 0 := List.length_eq_zero_iff.mpr awaiting.blank
      have alone := hd.solo_openAs asked (asked ▸ known) settings usable
      rw [first] at alone
      exact ⟨_, rfl, hc.solo_openAs asked found settings timed, alone⟩

end

/-! ### Runs -/

section

variable {router : RouterId} {own : SessionRef}

theorem Heard.left_run {c d : Course} (heard : Heard router d) {action : Action}
    (ready : action.isReady = true) :
    Heard router (runAll (action.staying? router own c).toList d) := by
  cases stays : action.staying? router own c with
  | none => exact heard
  | some left => exact heard.run (Action.isReady_of_staying ready stays)

theorem twins_run (actions : List Action) {c d : Course} (hc : Heard router c)
    (hd : Heard router d) (ready : ∀ action ∈ actions, action.isReady = true)
    (twins : Twins router own c d) :
    Twins router own (runAll actions c) (runAll (withoutOthers router own actions c) d) := by
  induction actions generalizing c d with
  | nil => exact twins
  | cons action rest ih =>
    obtain ⟨first, others⟩ := List.forall_mem_cons.mp ready
    rw [withoutOthers, runAll_append]
    exact ih (hc.run first) (hd.left_run first) others (twins_step twins hc hd first)

/-- A run that opens the session at last makes twins of it and of what is left of it. -/
theorem awaiting_run (actions : List Action) {c d : Course} (hc : Heard router c)
    (hd : Heard router d) (ready : ∀ action ∈ actions, action.isReady = true)
    (awaiting : Awaiting own c d) {session : Session}
    (opened : (runAll actions c).world.session? own = some session)
    (routed : session.router = router) :
    Twins router own (runAll actions c) (runAll (withoutOthers router own actions c) d) := by
  induction actions generalizing c d with
  | nil =>
    rw [runAll, awaiting.missing] at opened
    contradiction
  | cons action rest ih =>
    obtain ⟨first, others⟩ := List.forall_mem_cons.mp ready
    rw [withoutOthers, runAll_append]
    cases made : (action.run c).world.session? own with
    | none =>
      have later := awaiting.step hc hd first made
      exact ih (hc.run first) (hd.left_run first) others later opened
    | some begun =>
      -- The session keeps its router from the opening on.
      obtain ⟨phase, kept, _⟩ := (runAll_passage (action.run c) rest).leads.sessions own begun made
      have same : { begun with phase := phase } = session :=
        Option.some.inj (kept.symm.trans opened)
      have there : begun.router = router := (congrArg Session.router same).trans routed
      have twins := awaiting.twins hc hd first made there
      exact twins_run rest (hc.run first) (hd.left_run first) others twins

end

/-- Two sessions have the same settings, and show, hand out and return at their closing the same
records, as far as these do not depend on the clock. -/
structure SameResults (w : World) (ref : SessionRef) (v : World) (other : SessionRef) : Prop where
  settings : ∃ session twin, w.session? ref = some session ∧ v.session? other = some twin ∧
    twin.router = session.router ∧ twin.patterns = session.patterns ∧
      twin.least = session.least ∧ twin.renderLimit = session.renderLimit ∧
        twin.isClosed = session.isClosed
  events : (v.events other).timeless = (w.events ref).timeless
  drained : (v.drainSession other).2.map Record.timeless =
    (w.drainSession ref).2.map Record.timeless
  closed : (v.close other).2.timeless = (w.close ref).2.timeless

theorem Lawful.results {c : Course} (lawful : Lawful c) {ref : SessionRef} {solo : Solo}
    (shown : c.world.solo? ref = some solo) :
    (c.world.events ref).timeless = (solo.kept, solo.closed) ∧
      (c.world.drainSession ref).2.map Record.timeless =
        (if solo.closed then [] else solo.kept) ∧
        (c.world.close ref).2.timeless = (solo.kept, true) := by
  obtain ⟨session, sink, found, held, frozen, rfl⟩ := lawful.of_solo? shown
  refine ⟨?_, ?_, ?_⟩
  · simp only [World.events, found, Option.elim_some, World.snapshot, held, Sink.snapshot, frozen]
    rfl
  · have handed : sink.drain.2 = if session.isClosed then [] else sink.records := by
      rw [← frozen, Sink.drain]
      split <;> rfl
    simp only [World.drainSession, found, World.drain, held, handed, Session.solo]
    exact apply_ite (List.map Record.timeless) _ _ _
  · rw [World.snapshot_close found held frozen]
    rfl

theorem Twins.results {router : RouterId} {own : SessionRef} {c d : Course}
    (twins : Twins router own c d) (full : Lawful c) (alone : Lawful d) :
    SameResults c.world own d.world ⟨0⟩ := by
  obtain ⟨solo, _, shown, seen⟩ := twins
  obtain ⟨session, _, found, _, _, same⟩ := full.of_solo? shown
  obtain ⟨twin, _, there, _, _, equal⟩ := alone.of_solo? seen
  have settings {α : Type} (setting : Solo → α) := congrArg setting (equal.trans same.symm)
  obtain ⟨events, drained, closed⟩ := full.results shown
  obtain ⟨shows, hands, returns⟩ := alone.results seen
  constructor
  · exact ⟨session, twin, found, there, settings Solo.router, settings Solo.patterns,
      settings Solo.least, settings Solo.renderLimit, settings Solo.closed⟩
  · rw [events, shows]
  · rw [drained, hands]
  · rw [closed, returns]

/-- At every point of a run, a session on the router that is the subscriber gives the results that
it gives at the same point of what is left of the run when nothing is done on other sessions and the
client attaches and detaches no routes to that router. -/
theorem results_undisturbed {origin : Instant} {earlier : List Action} {c : Course}
    (reached : c ∈ trail earlier (Course.start origin)) {router : RouterId}
    (blank : Blank router c) (before after : List Action)
    (ready : ∀ action ∈ before, action.isReady = true) {own : SessionRef} {session : Session}
    (opened : (runAll before c).world.session? own = some session)
    (routed : session.router = router) :
    let left := withoutOthers router own
    left (before ++ after) c = left before c ++ left after (runAll before c) ∧
      SameResults (runAll before c).world own (runAll (left before c) c).world ⟨0⟩ := by
  have passage := (trail_passed (Course.start origin) earlier).reached c reached
  have lawful := passage.lawful (lawful_start origin)
  have faithful := passage.faithful (lawful_start origin) (faithful_start origin)
  have heard : Heard router c := ⟨lawful, faithful, blank.plain, blank.subscribed⟩
  have awaiting : Awaiting own c c :=
    ⟨session?_of_nil blank.sessions own, blank.sessions, rfl, Nat.le_refl _, fun _ => rfl,
      fun some => absurd blank.sessions some⟩
  have twins := awaiting_run before heard heard ready awaiting opened routed
  have full := (runAll_passage c before).lawful lawful
  have alone := (runAll_passage c (withoutOthers router own before c)).lawful lawful
  exact ⟨withoutOthers_append router own before after c, twins.results full alone⟩

/-- A router of its own, a sink for plain routes, and the router as the subscriber. -/
def preparation : List Action := [.newRouter false, .newSink, .within ⟨1⟩ []]

/-- Where the router is the subscriber, before anything is done under it. -/
def prepared : Course :=
  let c := runAll [.newRouter false, .newSink] (Course.start ⟨0, 0⟩)
  c.moved { c.world with subscriber := ⟨1⟩ }

/-- A run in which another session is opened before, waited for in vain and closed, and a plain
route is attached and detached. -/
def sharedRun : List Action :=
  [.openSession ⟨1⟩ ⟨1⟩ ["app.*"] .trace,
    .attach ⟨1⟩ ⟨[.descendants "app"], by decide⟩ .trace 0,
    .dispatch ⟨1⟩ (Event.plain .warn "app.part" "too early"),
    .waitFor ⟨0⟩ (Filter.ofCalls [.message (.equals "never")]) ⟨2000000, 1000000⟩,
    .openSession ⟨2⟩ ⟨1⟩ ["app.*"] .info,
    .dispatch ⟨1⟩ (Event.plain .info "app.part" "first"),
    .detach 0,
    .drain ⟨0⟩,
    .drain ⟨1⟩,
    .close ⟨0⟩,
    .dispatch ⟨1⟩ (Event.plain .error "app.part" "second")]

theorem results_undisturbed_sharedRun :
    let left := withoutOthers ⟨1⟩ ⟨1⟩ sharedRun prepared
    let full := runAll sharedRun prepared
    let alone := runAll left prepared
    SameResults full.world ⟨1⟩ alone.world ⟨0⟩ ∧ left.length = 5 ∧
      (alone.world.events ⟨0⟩).timeless =
        ([(1, Event.plain .error "app.part" "second")], false) ∧
      (full.world.elapsed, alone.world.elapsed) = (2000000, 0) := by
  intro left full alone
  have reached : prepared ∈ trail preparation (Course.start ⟨0, 0⟩) := by
    simp [preparation, trail, Action.inside, prepared, runAll]
  have blank : Blank ⟨1⟩ prepared := ⟨rfl, rfl, rfl, rfl⟩
  have ready : ∀ action ∈ sharedRun, action.isReady = true := by simp [sharedRun, Action.isReady]
  let session : Session :=
    ⟨⟨2⟩, ⟨1⟩, ⟨2⟩, ⟨[.descendants "app"], by decide⟩, .info, Report.usualLimit, 2000000,
      .capturing ⟨3⟩⟩
  have opened : full.world.session? ⟨1⟩ = some session := by decide +kernel
  have same := results_undisturbed reached blank sharedRun [] ready opened rfl
  exact ⟨same.2, by decide +kernel, by decide +kernel, by decide +kernel⟩

end Client

end EventCapture
