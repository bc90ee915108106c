import EventCapture.Proofs.Lifecycle

/-! What a session captures in a run: the emissions that it asked for, selected after its opening and
built before its closing, each of them once and in the order in which their events were built.

What a session has accepted is what was drained from it, followed by what it still keeps. What it is
owed is read off the log, which says of every emission when it selected its targets and when its
event was built.
-/

set_option autoImplicit false

namespace EventCapture

/-- Whether the settings of a session ask for events of this name and severity. -/
def Session.asksFor (session : Session) (logger : String) (level : Level) : Bool :=
  decide (session.least ≤ level) && session.patterns.matchesName logger

namespace World

/-- What a sink keeps. -/
def kept (w : World) (id : SinkId) : List Record := (w.snapshot id).records

theorem kept_eq (w : World) (id : SinkId) : w.kept id = (w.sink? id).elim [] Sink.records := by
  unfold kept snapshot
  cases w.sink? id <;> rfl

theorem events_eq {w : World} {ref : SessionRef} {session : Session}
    (found : w.session? ref = some session) : (w.events ref).records = w.kept session.sink := by
  rw [events, found]
  rfl

theorem kept_of_sink? {v w : World} {id : SinkId} (same : v.sink? id = w.sink? id) :
    v.kept id = w.kept id := by
  rw [kept_eq, kept_eq, same]

theorem drain_kept (w : World) (id : SinkId) : (w.drain id).2 ++ (w.drain id).1.kept id = w.kept id := by
  rw [kept_eq, kept_eq]
  unfold drain
  cases found : w.sink? id with
  | none => simp [found]
  | some sink =>
    simp only [sink?_setSink_self found, Option.elim_some, Sink.records_drain]
    unfold Sink.drain
    split <;> simp

theorem kept_freeze (w : World) (id other : SinkId) : (w.freeze id).1.kept other = w.kept other := by
  rw [kept_eq, kept_eq, sink?_freeze]
  split
  · next same =>
    rw [same]
    cases w.sink? id with
    | none => rfl
    | some sink => exact sink.records_freeze
  · rfl

theorem kept_retire (w : World) (ref : SessionRef) (session : Session) (id : SinkId) :
    (w.retire ref session).kept id = w.kept id := by
  rw [retire, kept_freeze]
  exact kept_of_sink? (w.sink?_stopCapturing session id)

/-- A sink takes the event as often as it was selected, unless it is frozen. -/
theorem added_recordAll (w : World) (ids : List SinkId) (event : Event) (id : SinkId) :
    ∃ added, (w.recordAll ids event).1.kept id = w.kept id ++ added ∧
      added.map Record.event =
        if w.frozen? id = some false then List.replicate (ids.count id) event else [] := by
  rw [kept_eq, kept_eq, frozen?]
  cases held : w.sink? id with
  | none =>
    rw [sink?_recordAll, held]
    exact ⟨[], rfl, rfl⟩
  | some sink =>
    cases frozen : sink.sealed with
    | true =>
      rw [sink?_recordAll_of_sealed held frozen]
      exact ⟨[], (List.append_nil _).symm, by simp [frozen]⟩
    | false =>
      obtain ⟨later, there, taken⟩ := taken_recordAll held frozen ids event
      rw [there]
      refine ⟨_, congrArg PlainSink.records taken, ?_⟩
      simp [frozen, Function.comp_def, SinkClock.stamp, List.map_const']

/-- A sink that is selected at most once gets the event just when it is selected and not frozen. -/
theorem kept_recordAll {w : World} {ids : List SinkId} {id : SinkId} {frozen : Bool}
    (there : w.frozen? id = some frozen) (once : ids.count id ≤ 1) (event : Event) :
    ∃ added, (w.recordAll ids event).1.kept id = w.kept id ++ added ∧
      added.map Record.event = if ids.count id = 1 ∧ frozen = false then [event] else [] := by
  obtain ⟨added, kept, same⟩ := w.added_recordAll ids event id
  refine ⟨added, kept, ?_⟩
  rw [same, there]
  obtain missed | selected : ids.count id = 0 ∨ ids.count id = 1 := by omega
  · simp [missed]
  · simp [selected]

theorem count_select_eq {w : World} {router : RouterId} {sink : SinkId} {leading : List Route}
    (all : (w.table router).filter (·.sink == sink) = leading) (logger : String) (level : Level) :
    (w.select router logger level).count sink =
      if w.ignores router logger then 0
      else (leading.filter (·.admits logger level)).length := by
  rw [select_eq]
  split
  · exact List.count_nil
  · -- Filtering by the sink and by what is admitted can be done in either order.
    rw [← all, List.filter_filter, ← List.countP_eq_length_filter, List.count, List.countP_map,
      List.countP_filter]
    exact congrArg (List.countP · _) (funext fun route => Bool.and_comm _ _)

end World

namespace Client

/-- An emission, with what had happened when its targets were selected and when its event was
built. -/
structure Emission where
  selected : List Happening
  built : List Happening
  router : RouterId
  event : Event
  deriving DecidableEq, Repr

/-- The emission that a happening is, after what had happened before it. -/
def Happening.emission? (past : List Happening) : Happening → Option Emission
  | .emitted selectedAt router event => some ⟨past.take selectedAt, past, router, event⟩
  | _ => none

/-- The emissions of a log that goes on after a past, in the order in which their events were
built. -/
def emissionsAfter (past : List Happening) : List Happening → List Emission
  | [] => []
  | happening :: rest =>
    (happening.emission? past).toList ++ emissionsAfter (past ++ [happening]) rest

/-- The records that a happening takes out of a session. -/
def Happening.drainedFrom (ref : SessionRef) : Happening → List Record
  | .drained session records => if session = ref then records else []
  | _ => []

namespace Course

def emissions (c : Course) : List Emission := emissionsAfter [] c.log

/-- What a session has accepted: the results of its drains, and what it still keeps. -/
def accepted (c : Course) (ref : SessionRef) : List Record :=
  c.log.flatMap (·.drainedFrom ref) ++ (c.world.events ref).records

/-- Whether a session has to capture an emission: it was emitted to the router of the session and
is none of the events that this router keeps away from, the session asks for it, and it selected its
targets after the opening and before the closing, and was built before the closing. -/
def owes (c : Course) (ref : SessionRef) (session : Session) (emission : Emission) : Bool :=
  emission.router == session.router &&
    !c.world.ignores session.router emission.event.logger &&
    session.asksFor emission.event.logger emission.event.level &&
    emission.selected.contains (.opened ref) && !emission.selected.contains (.closed ref) &&
    !emission.built.contains (.closed ref)

def owed (c : Course) (ref : SessionRef) (session : Session) : List Emission :=
  c.emissions.filter (c.owes ref session)

end Course

/-! ### Logs that grow -/

theorem emissionsAfter_append (past log more : List Happening) :
    emissionsAfter past (log ++ more) =
      emissionsAfter past log ++ emissionsAfter (past ++ log) more := by
  induction log generalizing past with
  | nil => simp [emissionsAfter]
  | cons first rest ih =>
    have tail := ih (past ++ [first])
    simp only [List.append_assoc, List.singleton_append] at tail
    simp only [List.cons_append, emissionsAfter, tail, List.append_assoc]

theorem mem_of_mem_selected {past log : List Happening} {emission : Emission}
    (member : emission ∈ emissionsAfter past log) {happening : Happening}
    (before : happening ∈ emission.selected) : happening ∈ past ++ log := by
  induction log generalizing past with
  | nil => simp [emissionsAfter] at member
  | cons first rest ih =>
    -- What had happened at the selection is a part of the past, and this is a part of the log.
    rcases List.mem_append.mp member with here | later
    · cases first with
      | emitted selectedAt router event =>
        simp only [Happening.emission?, Option.toList_some, List.mem_singleton] at here
        subst here
        exact List.mem_append_left _ (List.mem_of_mem_take before)
      | opened | closed | drained => simp [Happening.emission?] at here
    · have found := ih later
      rwa [List.append_assoc, List.singleton_append] at found

/-- When something more happens, what is owed grows by what the new emissions add. -/
theorem owed_append {c d : Course} {more : List Happening} (log : d.log = c.log ++ more)
    {ref : SessionRef} {session : Session} (phase : Phase)
    (same : d.world.ownEvents? session.router = c.world.ownEvents? session.router) :
    d.owed ref { session with phase := phase } =
      c.owed ref session ++ (emissionsAfter c.log more).filter (c.owes ref session) := by
  have rule : d.owes ref { session with phase := phase } = c.owes ref session := by
    funext emission
    simp only [Course.owes, World.ignores, same]
    rfl
  have grown : d.emissions = c.emissions ++ emissionsAfter c.log more := by
    rw [Course.emissions, log, emissionsAfter_append, List.nil_append]
    rfl
  rw [Course.owed, rule, grown, List.filter_append]
  rfl

/-! ### Targets -/

/-- The sink of a session is selected once by an emission to its router that it asks for, as long as
the session is not closed, and never otherwise. -/
theorem Lawful.count_select {c : Course} (lawful : Lawful c) {session : Session}
    (member : session ∈ c.world.sessions) (router : RouterId) (logger : String) (level : Level) :
    (c.world.select router logger level).count session.sink =
      if router == session.router && !c.world.ignores session.router logger &&
        session.asksFor logger level && !session.isClosed then 1 else 0 := by
  rw [World.count_select_eq (lawful.leading member router)]
  by_cases here : router = session.router
  · subst here
    cases phase : session.phase with
    | armed => exact absurd phase (lawful.begun session member)
    | closed => simp [Session.routeOn?, Session.isClosed, phase]
    | capturing route =>
      have admits : Route.admits ⟨route, session.patterns, session.least, session.sink⟩ logger
          level = session.asksFor logger level := rfl
      have unclosed : session.isClosed = false := by
        rw [Session.isClosed, phase]
        rfl
      cases c.world.ignores session.router logger <;>
        cases asked : session.asksFor logger level <;>
        simp [Session.routeOn?, phase, admits, asked, unclosed]
  · have detached : session.routeOn? router = none := by
      unfold Session.routeOn?
      split
      · rw [if_neg (Ne.symm here)]
      · rfl
    simp [detached, here]

theorem Lawful.mem_select {c : Course} (lawful : Lawful c) {sink : SinkId} {router : RouterId}
    {logger : String} {level : Level} (selected : sink ∈ c.world.select router logger level) :
    sink ∈ c.sinks ∨ ∃ ref session, c.world.session? ref = some session ∧ session.sink = sink := by
  rw [World.select_eq] at selected
  split at selected
  · contradiction
  · obtain ⟨route, admitted, rfl⟩ := List.mem_map.mp selected
    have held := (lawful.tabled.held router).mem_iff.mp (List.mem_filter.mp admitted).1
    rcases List.mem_append.mp held with own | attached
    · obtain ⟨handle, member, attached⟩ := List.mem_filterMap.mp own
      left
      rw [← (of_handle_route attached).2.2]
      exact lawful.owned.routed handle member
    · obtain ⟨session, member, attached⟩ := List.mem_filterMap.mp attached
      obtain ⟨place, found⟩ := List.mem_iff_getElem?.mp member
      exact .inr ⟨⟨place⟩, session, found, (of_session_route attached).2.2.symm⟩

theorem Lawful.count_select_later {b c : Course} (lawful : Lawful b) (owned : Owned c)
    (leads : Leads b c) {ref : SessionRef} {session : Session}
    (found : c.world.session? ref = some session) (missing : b.world.session? ref = none)
    (router : RouterId) (logger : String) (level : Level) :
    (b.world.select router logger level).count session.sink = 0 := by
  refine List.count_eq_zero.mpr fun selected => ?_
  -- Sinks of the client stay its own, and sinks of sessions stay theirs.
  obtain own | ⟨other, earlier, there, same⟩ := lawful.mem_select selected
  · exact owned.foreign session (World.mem_of_session? found) (leads.sinks.subset own)
  · obtain ⟨phase, kept, _⟩ := leads.sessions other earlier there
    have equal := owned.ref_eq found kept same.symm
    rw [equal, there] at missing
    contradiction

/-! ### The log and the sessions -/

/-- The session that a happening is about. -/
def Happening.session? : Happening → Option SessionRef
  | .opened session | .closed session | .drained session _ => some session
  | .emitted _ _ _ => none

/-- The log tells of sessions what is the case. -/
structure Faithful (c : Course) : Prop where
  /-- The log speaks of no sessions but those that exist. -/
  known : ∀ happening ∈ c.log, ∀ ref ∈ happening.session?, (c.world.session? ref).isSome
  opened : ∀ ref session, c.world.session? ref = some session → .opened ref ∈ c.log
  closed : ∀ ref session, c.world.session? ref = some session →
    (.closed ref ∈ c.log ↔ session.isClosed)
  placed : ∀ session ∈ c.world.sessions, (c.world.ownEvents? session.router).isSome
  /-- Every session has accepted what it is owed. -/
  exact : ∀ ref session, c.world.session? ref = some session →
    (c.accepted ref).map Record.event = (c.owed ref session).map Emission.event

theorem faithful_start (origin : Instant) : Faithful (Course.start origin) := by
  constructor <;> simp [Course.start, World.start, World.session?]

/-- A session stays exact when what happens adds to what it has drained and keeps just the new
emissions that it is owed. -/
theorem exact_append {c d : Course} {more : List Happening} (log : d.log = c.log ++ more)
    {ref : SessionRef} {session : Session} {phase : Phase}
    (found : c.world.session? ref = some session)
    (later : d.world.session? ref = some { session with phase := phase })
    (same : d.world.ownEvents? session.router = c.world.ownEvents? session.router)
    (before : (c.accepted ref).map Record.event = (c.owed ref session).map Emission.event)
    (flow : (more.flatMap (·.drainedFrom ref) ++ d.world.kept session.sink).map Record.event =
      (c.world.kept session.sink).map Record.event ++
        ((emissionsAfter c.log more).filter (c.owes ref session)).map Emission.event) :
    (d.accepted ref).map Record.event =
      (d.owed ref { session with phase := phase }).map Emission.event := by
  rw [owed_append log phase same, List.map_append, ← before]
  unfold Course.accepted
  rw [World.events_eq found, World.events_eq later, log, List.flatMap_append, List.append_assoc,
    List.map_append, flow, ← List.append_assoc, ← List.map_append]

/-- The log stays faithful where sessions stay as they are and nothing is opened or closed. -/
theorem Faithful.quiet {c d : Course} {more : List Happening} (faithful : Faithful c)
    (leads : Leads c d) (sessions : d.world.sessions = c.world.sessions)
    (log : d.log = c.log ++ more)
    (known : ∀ happening ∈ more, ∀ ref ∈ happening.session?, (c.world.session? ref).isSome)
    (unclosed : ∀ ref, .closed ref ∉ more)
    (flow : ∀ ref session, c.world.session? ref = some session →
      (more.flatMap (·.drainedFrom ref) ++ d.world.kept session.sink).map Record.event =
        (c.world.kept session.sink).map Record.event ++
          ((emissionsAfter c.log more).filter (c.owes ref session)).map Emission.event) :
    Faithful d := by
  have same (ref : SessionRef) : d.world.session? ref = c.world.session? ref := by
    simp only [World.session?, sessions]
  have routers {session : Session} (member : session ∈ c.world.sessions) :
      d.world.ownEvents? session.router = c.world.ownEvents? session.router := by
    obtain ⟨own, there⟩ := Option.isSome_iff_exists.mp (faithful.placed session member)
    rw [there, leads.routers _ own there]
  constructor
  · intro happening member ref mentioned
    rw [log] at member
    rw [same]
    rcases List.mem_append.mp member with old | new
    · exact faithful.known happening old ref mentioned
    · exact known happening new ref mentioned
  · intro ref session found
    rw [same] at found
    rw [log]
    exact List.mem_append_left _ (faithful.opened ref session found)
  · intro ref session found
    rw [same] at found
    rw [log, List.mem_append, or_iff_left (unclosed ref)]
    exact faithful.closed ref session found
  · intro session member
    rw [sessions] at member
    rw [routers member]
    exact faithful.placed session member
  · intro ref session later
    have found := later
    rw [same] at found
    exact exact_append log found later (routers (World.mem_of_session? found))
      (faithful.exact ref session found) (flow ref session found)

theorem Faithful.silent {c d : Course} (faithful : Faithful c) (leads : Leads c d)
    (sessions : d.world.sessions = c.world.sessions) (log : d.log = c.log)
    (sinks : ∀ session ∈ c.world.sessions,
      d.world.sink? session.sink = c.world.sink? session.sink) : Faithful d := by
  refine faithful.quiet leads sessions (by rw [log, List.append_nil]) (by simp) (by simp) ?_
  intro ref session found
  have kept := World.kept_of_sink? (sinks session (World.mem_of_session? found))
  simp [kept, emissionsAfter]

/-! ### What each step does to the log -/

theorem Faithful.drained {c : Course} (faithful : Faithful c) (owned : Owned c) {ref : SessionRef}
    {session : Session} (found : c.world.session? ref = some session)
    (leads : Leads c ((c.moved (c.world.drain session.sink).1).noted
      (.drained ref (c.world.drain session.sink).2))) :
    Faithful ((c.moved (c.world.drain session.sink).1).noted
      (.drained ref (c.world.drain session.sink).2)) := by
  refine faithful.quiet leads (World.steady_drain _ _).sessions rfl ?_ (by simp) ?_
  · intro happening member other mentioned
    rw [List.mem_singleton.mp member] at mentioned
    obtain rfl : ref = other := Option.some.inj mentioned
    rw [found]
    rfl
  · intro other there found_other
    simp only [Course.noted, Course.moved, List.flatMap_singleton, Happening.drainedFrom,
      emissionsAfter, Happening.emission?, Option.toList_none, List.filter_nil, List.map_nil,
      List.append_nil]
    by_cases here : ref = other
    · subst here
      rw [found] at found_other
      rw [if_pos rfl, ← Option.some.inj found_other, World.drain_kept]
    · have apart : there.sink ≠ session.sink := fun same =>
        here (owned.ref_eq found found_other same.symm)
      rw [if_neg here, List.nil_append,
        World.kept_of_sink? (World.sink?_drain_of_ne c.world apart)]

theorem owes_emitted {b c : Course} (faithful : Faithful b) (later : Faithful c) (leads : Leads b c)
    {ref : SessionRef} {earlier session : Session} (there : b.world.session? ref = some earlier)
    (found : c.world.session? ref = some session) (router : RouterId) (event : Event) :
    c.owes ref session ⟨b.log, c.log, router, event⟩ =
      (router == earlier.router && !b.world.ignores earlier.router event.logger &&
        earlier.asksFor event.logger event.level && !earlier.isClosed && !session.isClosed) := by
  obtain ⟨phase, kept, _⟩ := leads.sessions ref earlier there
  obtain rfl : { earlier with phase := phase } = session :=
    Option.some.inj (kept.symm.trans found)
  -- The router was there at the selection, and what it keeps away from does not change.
  obtain ⟨own, flag⟩ := Option.isSome_iff_exists.mp
    (faithful.placed earlier (World.mem_of_session? there))
  have same : c.world.ignores earlier.router event.logger =
      b.world.ignores earlier.router event.logger := by
    unfold World.ignores
    rw [flag, leads.routers _ own flag]
  have opened : b.log.contains (.opened ref) = true :=
    List.contains_iff_mem.mpr (faithful.opened ref earlier there)
  have before : b.log.contains (.closed ref) = earlier.isClosed :=
    Bool.eq_iff_iff.mpr (List.contains_iff_mem.trans (faithful.closed ref earlier there))
  have after : c.log.contains (.closed ref) = ({ earlier with phase := phase } : Session).isClosed :=
    Bool.eq_iff_iff.mpr (List.contains_iff_mem.trans (later.closed ref _ found))
  simp only [Course.owes, opened, before, after, same, Bool.and_true]
  rfl

theorem Faithful.emit {b c : Course} (faithful : Faithful b) (later : Faithful c)
    (lawful : Lawful b) (owned : Owned c) (leads : Leads b c) (router : RouterId) (event : Event) :
    Faithful (c.emit b router event) := by
  have past : c.log.take b.log.length = b.log := (List.prefix_iff_eq_take.mp leads.log).symm
  refine later.quiet (leads_emit c b router event) (World.steady_recordAll _ _ event).sessions rfl
    (by simp [Happening.session?]) (by simp) ?_
  intro ref session found
  have frozen := owned.frozen session (World.mem_of_session? found)
  simp only [Course.emit, Course.noted, Course.moved, List.flatMap_singleton,
    Happening.drainedFrom, emissionsAfter, Happening.emission?, Option.toList_some, past,
    List.nil_append, List.append_nil]
  cases there : b.world.session? ref with
  | none =>
    -- The session was opened after the selection: it is neither selected nor owed anything.
    have missed := lawful.count_select_later owned leads found there router event.logger event.level
    have unopened : .opened ref ∉ b.log := by
      intro said
      have known := faithful.known _ said ref rfl
      rw [there] at known
      contradiction
    obtain ⟨added, kept, same⟩ := World.kept_recordAll frozen (by rw [missed]; omega) event
    rw [missed] at same
    simp [kept, same, Course.owes, unopened]
  | some earlier =>
    have owes := owes_emitted faithful later leads there found router event
    have count := lawful.count_select (World.mem_of_session? there) router event.logger event.level
    have sink : earlier.sink = session.sink := by
      obtain ⟨phase, kept, _⟩ := leads.sessions ref earlier there
      rw [found] at kept
      rw [Option.some.inj kept]
    rw [sink] at count
    -- Selected once or not at all; what is frozen by now takes nothing either way.
    obtain ⟨added, kept, same⟩ :=
      World.kept_recordAll frozen (by rw [count]; split <;> omega) event
    rw [kept, List.map_append, same, count]
    congr 1
    split
    · next selected =>
      rw [selected, Bool.true_and] at owes
      cases closed : session.isClosed <;> simp [owes, closed]
    · next unselected =>
      rw [Bool.eq_false_iff.mpr unselected, Bool.false_and] at owes
      simp [owes]

theorem session_of_retire {w : World} {ref other : SessionRef} {session there : Session}
    (found : w.session? ref = some session)
    (later : (w.retire ref session).session? other = some there) :
    (other = ref ∧ there = { session with phase := .closed }) ∨
      other ≠ ref ∧ w.session? other = some there := by
  rw [World.session?_retire, found] at later
  by_cases here : other = ref
  · rw [if_pos here] at later
    exact .inl ⟨here, (Option.some.inj later).symm⟩
  · rw [if_neg here] at later
    exact .inr ⟨here, later⟩

theorem Faithful.retired {c : Course} (faithful : Faithful c) {ref : SessionRef}
    {session : Session} (found : c.world.session? ref = some session)
    (leads : Leads c ((c.moved (c.world.retire ref session)).noted (.closed ref))) :
    Faithful ((c.moved (c.world.retire ref session)).noted (.closed ref)) := by
  have same (id : RouterId) := World.ownEvents?_retire c.world ref session id
  have flow (other : SessionRef) (there : Session) :
      ([Happening.closed ref].flatMap (·.drainedFrom other) ++
          (c.world.retire ref session).kept there.sink).map Record.event =
        (c.world.kept there.sink).map Record.event ++
          ((emissionsAfter c.log [.closed ref]).filter (c.owes other there)).map
            Emission.event := by
    simp [Happening.drainedFrom, emissionsAfter, Happening.emission?, World.kept_retire]
  constructor
  · intro happening member other mentioned
    have before : (c.world.session? other).isSome := by
      rcases List.mem_append.mp member with old | new
      · exact faithful.known happening old other mentioned
      · rw [List.mem_singleton.mp new] at mentioned
        obtain rfl : ref = other := Option.some.inj mentioned
        rw [found]
        rfl
    obtain ⟨there, found_other⟩ := Option.isSome_iff_exists.mp before
    obtain ⟨phase, kept, _⟩ := leads.sessions other there found_other
    rw [kept]
    rfl
  · intro other there later
    apply List.mem_append_left
    obtain ⟨rfl, rfl⟩ | ⟨_, old⟩ := session_of_retire found later
    · exact faithful.opened other session found
    · exact faithful.opened other there old
  · intro other there later
    obtain ⟨rfl, rfl⟩ | ⟨apart, old⟩ := session_of_retire found later
    · simp [Course.noted, Session.isClosed]
    · have before := faithful.closed other there old
      simpa [Course.noted, Course.moved, apart] using before
  · intro there member
    obtain ⟨place, later⟩ := List.mem_iff_getElem?.mp member
    have later : (c.world.retire ref session).session? ⟨place⟩ = some there := later
    rw [Course.noted, Course.moved, same]
    obtain ⟨_, rfl⟩ | ⟨_, old⟩ := session_of_retire found later
    · exact faithful.placed session (World.mem_of_session? found)
    · exact faithful.placed there (World.mem_of_session? old)
  · intro other there later
    obtain ⟨rfl, rfl⟩ | ⟨_, old⟩ := session_of_retire found later
    · exact exact_append rfl found later (same _) (faithful.exact other session found)
        (flow other session)
    · exact exact_append rfl old later (same _) (faithful.exact other there old)
        (flow other there)

theorem exact_of_fresh {c d : Course} (faithful : Faithful c) {ref : SessionRef} {session : Session}
    (missing : c.world.session? ref = none) (log : d.log = c.log ++ [.opened ref])
    (found : d.world.session? ref = some session) (empty : d.world.kept session.sink = []) :
    (d.accepted ref).map Record.event = (d.owed ref session).map Emission.event := by
  -- The log cannot speak of a session before it exists.
  have unspoken (happening : Happening) (member : happening ∈ c.log) :
      happening.session? ≠ some ref := by
    intro mentioned
    have known := faithful.known happening member ref mentioned
    rw [missing] at known
    contradiction
  have undrained : d.log.flatMap (·.drainedFrom ref) = [] := by
    refine List.flatMap_eq_nil_iff.mpr fun happening member => ?_
    rw [log] at member
    rcases List.mem_append.mp member with old | new
    · cases happening with
      | drained other records =>
        exact if_neg fun same => unspoken _ old (congrArg some same)
      | opened | closed | emitted => rfl
    · rw [List.mem_singleton.mp new]
      rfl
  have nothing_owed : d.owed ref session = [] := by
    refine List.filter_eq_nil_iff.mpr fun emission member owes => ?_
    rw [Course.emissions, log, emissionsAfter_append, List.mem_append] at member
    obtain old | new := member
    · simp only [Course.owes, Bool.and_eq_true] at owes
      have opened := mem_of_mem_selected old (List.contains_iff_mem.mp owes.1.1.2)
      exact unspoken _ opened rfl
    · simp [emissionsAfter, Happening.emission?] at new
  rw [Course.accepted, undrained, World.events_eq found, empty, nothing_owed]
  rfl

theorem session_of_enlist {w : World} {router : Router} {wall : Instant} {session there : Session}
    {ref : SessionRef} (later : (w.enlist router wall session).session? ref = some there) :
    (ref = ⟨w.sessions.length⟩ ∧ there = session) ∨ w.session? ref = some there := by
  rw [World.session?_enlist] at later
  split at later
  · next last => exact .inl ⟨last, (Option.some.inj later).symm⟩
  · exact .inr later

theorem Faithful.enlisted {c : Course} (faithful : Faithful c) (owned : Owned c) {router : Router}
    {session : Session} (wall : Instant) (found : c.world.router? session.router = some router)
    (sink : session.sink = ⟨c.world.sinks.length⟩)
    (phase : session.phase = .capturing ⟨router.nextNumber⟩) :
    Faithful ((c.moved (c.world.enlist router wall session)).noted
      (.opened ⟨c.world.sessions.length⟩)) := by
  have missing : c.world.session? ⟨c.world.sessions.length⟩ = none :=
    List.getElem?_eq_none (Nat.le_refl _)
  have same (id : RouterId) : (c.world.enlist router wall session).ownEvents? id =
      c.world.ownEvents? id :=
    World.ownEvents?_attached found session.patterns session.least session.sink id
  constructor
  · intro happening member ref mentioned
    rw [Course.noted, Course.moved, World.session?_enlist]
    split
    · rfl
    · next other =>
      rcases List.mem_append.mp member with old | new
      · exact faithful.known happening old ref mentioned
      · rw [List.mem_singleton.mp new] at mentioned
        exact absurd (Option.some.inj mentioned).symm other
  · intro ref there later
    obtain ⟨rfl, _⟩ | old := session_of_enlist later
    · exact List.mem_append_right _ (List.mem_singleton_self _)
    · exact List.mem_append_left _ (faithful.opened ref there old)
  · intro ref there later
    obtain ⟨rfl, rfl⟩ | old := session_of_enlist later
    · have unsaid : .closed ⟨c.world.sessions.length⟩ ∉ c.log := by
        intro said
        have known := faithful.known _ said _ rfl
        rw [missing] at known
        contradiction
      have unclosed : there.isClosed = false := by
        rw [Session.isClosed, phase]
        rfl
      simp [Course.noted, Course.moved, unsaid, unclosed]
    · have before := faithful.closed ref there old
      simpa [Course.noted, Course.moved] using before
  · intro there member
    rw [Course.noted, Course.moved, same]
    rcases List.mem_append.mp member with old | new
    · exact faithful.placed there old
    · rw [List.mem_singleton.mp new, World.ownEvents?, found]
      rfl
  · intro ref there later
    obtain ⟨rfl, rfl⟩ | old := session_of_enlist later
    · refine exact_of_fresh faithful missing rfl later ?_
      simp [Course.noted, Course.moved, World.kept_eq, World.sink?, World.enlist, sink, Sink.start,
        Sink.records]
    · have bound := owned.session_lt (World.mem_of_session? old)
      have kept : (c.world.enlist router wall session).kept there.sink =
          c.world.kept there.sink := World.kept_of_sink? (World.sink?_append _ rfl bound)
      refine exact_append rfl old later (same _) (faithful.exact ref there old) ?_
      simp [Course.noted, Course.moved, Happening.drainedFrom, emissionsAfter, Happening.emission?,
        kept]

/-! ### Runs -/

theorem Move.faithful {a b : Course} (step : Move a b) (lawful : Lawful a) (faithful : Faithful a) :
    Faithful b := by
  have owned := lawful.owned
  have leads := step.leads
  cases step with
  | idle sinks routers sessions =>
    exact faithful.silent leads sessions rfl fun _ _ => by simp [Course.moved, World.sink?, sinks]
  | newRouter ownEvents => exact faithful.silent leads rfl rfl fun _ _ => rfl
  | newSink wall =>
    exact faithful.silent leads rfl rfl fun session member =>
      World.sink?_append _ rfl (owned.session_lt member)
  | touch own sink =>
    refine faithful.silent leads rfl rfl fun session member => ?_
    apply World.sink?_setSink_of_ne
    rintro rfl
    exact owned.foreign session member own
  | attach found own patterns least => exact faithful.silent leads rfl rfl fun _ _ => rfl
  | detach found =>
    exact faithful.silent leads (World.sessions_detach _ _ _) rfl fun _ _ =>
      World.sink?_detach _ _ _ _
  | opened wall found sink phase => exact faithful.enlisted owned wall found sink phase
  | drained found => exact faithful.drained owned found leads
  | closed found unclosed => exact faithful.retired found leads

theorem Passage.faithful {a b : Course} (passage : Passage a b) (lawful : Lawful a)
    (faithful : Faithful a) : Faithful b := by
  induction passage with
  | rest => exact faithful
  | move before step ih => exact step.faithful (before.lawful lawful) (ih lawful faithful)
  | emit router event before inner first second =>
    have middle := before.lawful lawful
    have selected := first lawful faithful
    exact selected.emit (second middle selected) middle (inner.lawful middle).owned inner.leads
      router event

/-- In every state of every run, inside builders too, each session has accepted just the events of
the emissions that it is owed, in the order in which they were built. -/
theorem trail_exact (origin : Instant) (actions : List Action) :
    ∀ c ∈ trail actions (Course.start origin), ∀ ref session,
      c.world.session? ref = some session →
        (c.accepted ref).map Record.event = (c.owed ref session).map Emission.event := by
  intro c member
  have passage := (trail_between (Course.start origin) actions).reached c member
  exact (passage.faithful (lawful_start origin) (faithful_start origin)).exact

/-- A run in which an event is built while another one is emitted, and the session drained and
closed later. -/
def nestedRun : List Action :=
  [.openSession ⟨7⟩ ⟨0⟩ ["app.*"] .info,
    .dispatchWith ⟨0⟩ (Event.plain .info "app.outer" "late")
      [.dispatch ⟨0⟩ (Event.plain .warn "app.inner" "early"),
        .dispatch ⟨0⟩ (Event.plain .debug "app.inner" "too slight")],
    .drain ⟨0⟩,
    .dispatch ⟨0⟩ (Event.plain .error "app.outer" "last"),
    .close ⟨0⟩,
    .dispatch ⟨0⟩ (Event.plain .error "app.outer" "over")]

theorem trail_exact_nestedRun :
    let c := runAll nestedRun (Course.start ⟨0, 0⟩)
    ∃ session, c.world.session? ⟨0⟩ = some session ∧
      (c.accepted ⟨0⟩).map Record.event = (c.owed ⟨0⟩ session).map Emission.event ∧
      (c.accepted ⟨0⟩).map (·.event.message) = ["early", "late", "last"] := by
  intro c
  have member : c ∈ trail nestedRun (Course.start ⟨0, 0⟩) := runAll_mem_trail _ _
  let session : Session :=
    ⟨⟨7⟩, ⟨0⟩, ⟨0⟩, ⟨[.descendants "app"], by decide⟩, .info, Report.usualLimit, 0, .closed⟩
  have found : c.world.session? ⟨0⟩ = some session := by decide +kernel
  exact ⟨session, found, trail_exact ⟨0, 0⟩ nestedRun c member ⟨0⟩ session found, by decide +kernel⟩

end Client

end EventCapture
