import EventCapture.Proofs.Waiting

/-! The audit trail of sessions.

An observer on own events, which are routed as soon as its router is the subscriber, sees what
becomes of all other sessions: of each opening, of each refusal, of each wait in vain and of each
first closing it gets one record, in the order in which these end. Of a closing only the observer
gets to know, not the session that is closed.
-/

set_option autoImplicit false

namespace EventCapture

namespace Audit

open Client

/-- The name under which sessions report. -/
def trailName : String := "logcap_core.session"

/-! ### Steps and their outcomes -/

/-- What is done with sessions, and what happens beside it. -/
inductive Step where
  | pass (nanos : Nat)
  | dispatch (router : RouterId) (event : Event)
  | openSession (id : SessionId) (router : RouterId) (patterns : List String) (least : Level)
  | openWithSettings (id : SessionId) (router : RouterId) (settings : Settings)
  | drain (session : SessionRef)
  /-- In the sleeps of a wait others act, each step with the time at which it is due. -/
  | waitFor (session : SessionRef) (filter : Filter) (policy : WaitPolicy)
      (others : List (Nat × Step))
  | close (session : SessionRef)
  | drop (session : SessionRef)

/-- The first closing of a session. -/
structure Closing where
  ref : SessionRef
  id : SessionId
  millis : Nat
  /-- What the session showed right before. -/
  before : List Record
  returned : Snapshot
  /-- What it shows right after, when the closing has been reported. -/
  after : List Record

/-- What a step gives back. -/
inductive Outcome where
  /-- There is no such router or session. -/
  | missing
  | opened (session : Session)
  | refused
  /-- Without a time of day no session can be made. -/
  | undated
  | drained (records : List Record)
  | found (record : Record)
  | timedOut (id : SessionId) (millis : Nat)
  | closed (closing : Closing)
  /-- The session had been closed before. -/
  | closedBefore (kept : Snapshot)

def openingOutcome : World × Except World.OpeningFault SessionRef → Outcome
  | (w, .ok ref) => (w.session? ref).elim .missing .opened
  | (_, .error (.refused _)) => .refused
  | (_, .error (.untimed _)) => .undated

/-- Ask for a session on a router. -/
def opening (router : RouterId) (begin : World → World × Except World.OpeningFault SessionRef)
    (w : World) : World × List Outcome :=
  (w.router? router).elim (w, [.missing]) fun _ => ((begin w).1, [openingOutcome (begin w)])

def firstClosing (w : World) (ref : SessionRef) (session : Session) : Closing :=
  { ref := ref
    id := session.id
    millis := wholeMillis (w.elapsed - session.openedAt)
    before := (w.events ref).records
    returned := (w.close ref).2
    after := ((w.close ref).1.events ref).records }

def closingOutcome (w : World) (ref : SessionRef) : Outcome :=
  (w.session? ref).elim .missing fun session =>
    if session.isClosed then .closedBefore (w.close ref).2 else .closed (firstClosing w ref session)

def waitOutcome (id : SessionId) {α : Type} (waited : Waited α) : Outcome :=
  match waited.result with
  | .ok record => .found record
  | .error _ => .timedOut id (wholeMillis waited.elapsed)

mutual

def Step.run : Step → World → World × List Outcome
  | .pass nanos, w => (w.advance nanos, [])
  | .dispatch router event, w => ((w.dispatch router event).1, [])
  | .openSession id router patterns least, w =>
    opening router (·.openSession id router patterns least) w
  | .openWithSettings id router settings, w =>
    opening router (·.openWithSettings id router settings) w
  | .drain ref, w =>
    let (v, records) := w.drainSession ref
    (v, [.drained records])
  | .waitFor ref filter policy others, w =>
    (w.session? ref).elim (w, [.missing]) fun session =>
      let (v, waited) := w.waitFor ref filter policy (dues others)
      -- What others did comes first, since the wait ends after it.
      (v, waited.during.flatten ++ [waitOutcome session.id waited])
  | .close ref, w => ((w.close ref).1, [closingOutcome w ref])
  | .drop ref, w => (w.release (.session ref), [closingOutcome w ref])

def dues : List (Nat × Step) → List (Due (List Outcome))
  | [] => []
  | entry :: rest => due entry :: dues rest

def due : Nat × Step → Due (List Outcome)
  | (delay, step) => ⟨delay, step.run⟩

end

mutual

/-- Whether a step leaves a session alone: it neither drains nor closes it, and passes no event off
as an entry of the trail. -/
def Step.spares (ref : SessionRef) : Step → Bool
  | .dispatch _ event => event.logger != trailName
  | .drain other | .close other | .drop other => other != ref
  | .waitFor _ _ _ others => duesSpare ref others
  | .pass _ | .openSession _ _ _ _ | .openWithSettings _ _ _ => true

def duesSpare (ref : SessionRef) : List (Nat × Step) → Bool
  | [] => true
  | entry :: rest => dueSpares ref entry && duesSpare ref rest

def dueSpares (ref : SessionRef) : Nat × Step → Bool
  | (_, step) => step.spares ref

end

def runAll : List Step → World → World × List Outcome
  | [], w => (w, [])
  | step :: rest, w =>
    let (w, outcomes) := step.run w
    let (w, others) := runAll rest w
    (w, outcomes ++ others)

/-! ### Entries of the trail -/

def entry (level : Level) (operation happening : String) (rest : List (String × String)) : Event :=
  { level := level
    logger := trailName
    message := ""
    error := none
    fields := Fields.ofList <| [("component", "logcap_core::session"), ("op", operation),
      ("event", happening)] ++ rest
    thread := ThreadTag.main }

/-- What is put down for an outcome: openings, refusals, waits in vain and first closings have an
entry of their own, and nothing else has any. -/
def Outcome.note? : Outcome → Option Event
  | .opened session =>
    some <| entry .debug "session_open" "start"
      [("session_id", session.id.text), ("patterns", session.patterns.text),
        ("minimum_level", session.least.name)]
  | .refused =>
    some <| entry .warn "session_open" "end_error"
      [("duration_ms", "0"), ("err.kind", "Configuration"), ("err.code", "ERR_CONFIGURATION")]
  | .timedOut id millis =>
    some <| entry .warn "session_wait" "end_error"
      [("duration_ms", toString millis), ("err.kind", "Timeout"), ("err.code", "ERR_TIMEOUT"),
        ("session_id", id.text)]
  | .closed closing =>
    some <| entry .debug "session_close" "end"
      [("duration_ms", toString closing.millis), ("session_id", closing.id.text),
        ("captured", toString closing.returned.records.length)]
  | .missing | .undated | .drained _ | .found _ | .closedBefore _ => none

theorem entry_eq {operation : Operation} (session : operation.component = Session.component)
    (level : Level) (happening : String) {rest : List Facade.Visit}
    (plain : rest.all Facade.Visit.isPlain = true) :
    (operation.report level happening rest).captured =
      entry level operation.name happening
        (rest.map fun field => (field.name, field.value.kept)) := by
  have all : ∀ field ∈ (operation.report level happening rest).visits, field.isPlain = true := by
    simp only [Operation.report, List.forall_mem_cons]
    exact ⟨rfl, rfl, rfl, List.all_eq_true.mp plain⟩
  have named : (operation.report level happening rest).logger = trailName := by
    change Name.ofTarget operation.component = trailName
    rw [session]
    decide
  rw [Facade.TraceEvent.captured_of_plain all, named]
  simp only [Operation.report, session]
  rfl

theorem entry_opened (session : Session) :
    (Outcome.opened session).note? = some session.openingReport.captured := by
  rw [Session.openingReport, Operation.started, entry_eq rfl _ _ rfl]
  rfl

theorem entry_refused (fault : Fault) :
    Outcome.refused.note? =
      some (Session.opening.failed (.configuration fault) 0 []).captured := by
  rw [Operation.failed, entry_eq rfl _ _ rfl]
  rfl

theorem entry_timedOut (session : Session) (failure : Failure) (timeout : failure.kind = .timeout)
    (millis : Nat) :
    (Outcome.timedOut session.id millis).note? =
      some (Session.waiting.failed failure millis [session.idField]).captured := by
  rw [Operation.failed, entry_eq rfl _ _ rfl, Failure.code, timeout]
  rfl

theorem entry_closed (w : World) (ref : SessionRef) (session : Session) :
    (Outcome.closed (firstClosing w ref session)).note? =
      some (session.closingReport w.elapsed (w.close ref).2.size).captured := by
  rw [Session.closingReport, Operation.finished, entry_eq rfl _ _ rfl]
  rfl

/-! ### The observer -/

/-- A session that is not closed and asks for own events, whose router routes them and is the
subscriber. The client holds what it held in a first state. -/
structure Watched (c : Course) (ref : SessionRef) (observer : Session) (w : World) : Prop where
  lawful : Lawful (c.moved w)
  found : w.session? ref = some observer
  unclosed : observer.isClosed = false
  own : w.ownEvents? observer.router = some true
  subscribed : w.subscriber = observer.router
  named : observer.patterns.matchesName trailName = true
  least : observer.least ≤ .debug

/-- The events of the trail among records. -/
def trailOf (records : List Record) : List Event :=
  (records.map Record.event).filter (·.logger == trailName)

/-- One world comes from another while the observer gets these entries, and every session keeps its
settings and stays closed when it is closed. -/
structure Hears (c : Course) (ref : SessionRef) (observer : Session) (w : World)
    (entries : List Event) (v : World) : Prop where
  watched : Watched c ref observer v
  gained : ∃ gained, v.kept observer.sink = w.kept observer.sink ++ gained ∧
    trailOf gained = entries
  sessions : ∀ other session, w.session? other = some session →
    ∃ phase, v.session? other = some { session with phase := phase } ∧
      (session.phase = .closed → phase = .closed)

section

variable {c : Course} {ref : SessionRef} {observer : Session} {u v w : World}

theorem Hears.rest (watched : Watched c ref observer w) : Hears c ref observer w [] w :=
  ⟨watched, ⟨[], (List.append_nil _).symm, rfl⟩, fun _ session found => ⟨session.phase, found, id⟩⟩

theorem Hears.trans {entries more : List Event} (first : Hears c ref observer w entries v)
    (second : Hears c ref observer v more u) : Hears c ref observer w (entries ++ more) u := by
  obtain ⟨_, ⟨early, grown, rfl⟩, firstKept⟩ := first
  obtain ⟨watched, ⟨late, grows, rfl⟩, thenKept⟩ := second
  refine ⟨watched, ⟨early ++ late, ?_, ?_⟩, fun other session found => ?_⟩
  · rw [grows, grown, List.append_assoc]
  · rw [trailOf, List.map_append, List.filter_append]
    rfl
  · obtain ⟨phase, kept, closed⟩ := firstKept other session found
    obtain ⟨last, kept, stays⟩ := thenKept other _ kept
    exact ⟨last, kept, fun before => stays (closed before)⟩

/-- What leaves the observer and its sink alone is not heard. -/
theorem Watched.move (watched : Watched c ref observer w) {d : Course} (step : Move (c.moved w) d)
    (held : HeldSame c d) (atOnce : d.world.subscriber = w.subscriber)
    (found : d.world.session? ref = some observer)
    (sink : d.world.sink? observer.sink = w.sink? observer.sink) :
    Hears c ref observer w [] d.world := by
  have lawful : Lawful (c.moved d.world) :=
    (step.lawful watched.lawful).steady held.sinks.symm held.handles.symm (.refl _)
  refine ⟨{ watched with lawful, found, own := ?_, subscribed := ?_ }, ⟨[], ?_, rfl⟩, ?_⟩
  · exact step.leads.routers _ _ watched.own
  · exact atOnce.trans watched.subscribed
  · rw [World.kept_of_sink? sink, List.append_nil]
  · exact step.leads.sessions

theorem Watched.count_select (watched : Watched c ref observer w) (router : RouterId)
    (logger : String) (level : Level) :
    (w.select router logger level).count observer.sink =
      if router = observer.router ∧ observer.asksFor logger level = true then 1 else 0 := by
  have member := World.mem_of_session? watched.found
  have unignored : (c.moved w).world.ignores observer.router logger = false := by
    have known : (c.moved w).world.ownEvents? observer.router = some true := watched.own
    simp [World.ignores, known]
  refine (watched.lawful.count_select member router logger level).trans ?_
  simp [watched.unclosed, unignored]

/-- Of an emission the observer puts down the event if it asks for it. -/
theorem Watched.emit (watched : Watched c ref observer w) (router : RouterId) (event : Event) :
    Hears c ref observer w
      (if router = observer.router ∧ observer.asksFor event.logger event.level = true ∧
        event.logger = trailName then [event] else [])
      (w.recordAll (w.select router event.logger event.level) event).1 := by
  have member := World.mem_of_session? watched.found
  have steady := World.steady_recordAll w (w.select router event.logger event.level) event
  have atOnce := World.atOnce_recordAll w (w.select router event.logger event.level) event
  have leads := leads_emit (c.moved w) (c.moved w) router event
  have selected := watched.count_select router event.logger event.level
  refine ⟨{ watched with
    lawful := watched.lawful.steady rfl rfl steady
    found := (steady.session? ref).trans watched.found
    own := leads.routers _ _ watched.own
    subscribed := atOnce.subscriber.trans watched.subscribed }, ?_, leads.sessions⟩
  obtain ⟨gained, grown, same⟩ :=
    World.kept_recordAll (watched.lawful.owned.frozen observer member)
      (by rw [selected]; split <;> omega) event
  refine ⟨gained, grown, ?_⟩
  rw [trailOf, same, selected, watched.unclosed]
  by_cases heard : router = observer.router ∧ observer.asksFor event.logger event.level = true
  · by_cases name : event.logger = trailName <;> simp [heard, name]
  · rw [if_neg heard, if_neg (fun selected => absurd selected.1 Nat.zero_ne_one),
      if_neg fun all => heard ⟨all.1, all.2.1⟩]
    rfl

/-- A report of a session is an entry of the trail. -/
theorem Watched.report (watched : Watched c ref observer w) {event : Facade.TraceEvent}
    (session : event.target = Session.component) (severe : .debug ≤ event.level) {outcome : Outcome}
    (told : outcome.note? = some event.captured) :
    Hears c ref observer w ([outcome].filterMap Outcome.note?) (w.trace event) := by
  have named : event.logger = trailName := by
    rw [Facade.TraceEvent.logger, session]
    decide
  have asked : observer.asksFor event.logger event.level = true := by
    rw [Session.asksFor, named, watched.named, Bool.and_true, decide_eq_true_iff]
    exact Level.le_trans watched.least severe
  have heard := watched.emit w.subscriber event.captured
  rw [if_pos ⟨watched.subscribed, asked, named⟩] at heard
  rw [World.trace_eq, List.filterMap_cons_some told]
  exact heard

/-- An event under another name is no entry of the trail. -/
theorem Watched.dispatch (watched : Watched c ref observer w) (router : RouterId) {event : Event}
    (foreign : event.logger ≠ trailName) :
    Hears c ref observer w [] (w.dispatch router event).1 := by
  have heard := watched.emit router event
  rw [if_neg fun all => foreign all.2.2] at heard
  rw [World.dispatch_eq]
  exact heard

/-- That time passes is not heard. -/
theorem Watched.idle (watched : Watched c ref observer w) (elapsed : Nat) :
    Hears c ref observer w [] { w with elapsed := elapsed } :=
  have step : Move (c.moved w) ((c.moved w).moved { w with elapsed := elapsed }) :=
    .idle rfl rfl rfl
  watched.move step ⟨rfl, rfl⟩ rfl watched.found rfl

/-! ### Openings, drains and closings -/

theorem Watched.enlist (watched : Watched c ref observer w) {there : Router} {session : Session}
    (routed : w.router? session.router = some there) (wall : Instant)
    (sink : session.sink = ⟨w.sinks.length⟩)
    (phase : session.phase = .capturing ⟨there.nextNumber⟩) :
    Hears c ref observer w [] (w.enlist there wall session) := by
  have member := World.mem_of_session? watched.found
  have bound : observer.sink.index < w.sinks.length := watched.lawful.owned.session_lt member
  have step : Move (c.moved w) _ := .opened wall routed sink phase
  refine watched.move step ⟨rfl, rfl⟩ rfl ?_ (World.sink?_append _ rfl bound)
  exact (World.session?_enlist _ _ _ _ _).trans
    ((if_neg (World.ne_next_of_session? watched.found)).trans watched.found)

/-- Two sessions have two sinks. -/
theorem Watched.sink_ne (watched : Watched c ref observer w) {other : SessionRef} {session : Session}
    (found : w.session? other = some session) (apart : other ≠ ref) :
    observer.sink ≠ session.sink := fun same =>
  apart (watched.lawful.owned.ref_eq watched.found found same).symm

theorem Watched.drain (watched : Watched c ref observer w) {other : SessionRef} {session : Session}
    (found : w.session? other = some session) (apart : other ≠ ref) :
    Hears c ref observer w [] (w.drain session.sink).1 := by
  have step : Move (c.moved w) _ := .drained found
  have steady := World.steady_drain w session.sink
  exact watched.move step ⟨rfl, rfl⟩ (World.atOnce_drain w session.sink).subscriber
    ((steady.session? ref).trans watched.found)
    (World.sink?_drain_of_ne w (watched.sink_ne found apart))

theorem Watched.retire (watched : Watched c ref observer w) {other : SessionRef} {session : Session}
    (found : w.session? other = some session) (unclosed : session.isClosed = false)
    (apart : other ≠ ref) : Hears c ref observer w [] (w.retire other session) := by
  have step : Move (c.moved w) _ := .closed found unclosed
  refine watched.move step ⟨rfl, rfl⟩ (World.atOnce_retire w other session).subscriber ?_ ?_
  · exact (World.session?_retire _ _ _ _).trans ((if_neg (Ne.symm apart)).trans watched.found)
  · exact (World.sink?_retire _ _ _ _).trans (if_neg (watched.sink_ne found apart))

/-! ### Outcomes -/

/-- The session that an outcome says was closed for the first time. -/
def Outcome.closed? : Outcome → Option SessionRef
  | .closed closing => some closing.ref
  | _ => none

/-- What the outcomes of a run from one world to another tell is all that the observer hears, and
they tell of no closing twice. A session does not capture that it is closed. -/
structure Tells (c : Course) (ref : SessionRef) (observer : Session) (w : World)
    (outcomes : List Outcome) (v : World) : Prop
    extends Hears c ref observer w (outcomes.filterMap Outcome.note?) v where
  closings : ∀ closing, .closed closing ∈ outcomes →
    closing.returned.records = closing.before ∧ closing.after = closing.before
  unclosed : ∀ other ∈ outcomes.filterMap Outcome.closed?,
    (w.session? other).any Session.isClosed = false
  closed : ∀ other ∈ outcomes.filterMap Outcome.closed?,
    (v.session? other).any Session.isClosed = true
  once : (outcomes.filterMap Outcome.closed?).Nodup

theorem Hears.tells {outcomes : List Outcome}
    (hears : Hears c ref observer w (outcomes.filterMap Outcome.note?) v)
    (none : ∀ outcome ∈ outcomes, outcome.closed? = none) : Tells c ref observer w outcomes v := by
  have nothing : outcomes.filterMap Outcome.closed? = [] := List.filterMap_eq_nil_iff.mpr none
  refine ⟨hears, fun closing told => ?_, ?_, ?_, ?_⟩
  · have untold := none _ told
    contradiction
  all_goals simp [nothing]

theorem Hears.isClosed {entries : List Event} (hears : Hears c ref observer w entries v)
    {other : SessionRef} (closed : (w.session? other).any Session.isClosed = true) :
    (v.session? other).any Session.isClosed = true := by
  obtain ⟨session, found, closed⟩ := (Option.any_eq_true _ _).mp closed
  obtain ⟨phase, kept, stays⟩ := hears.sessions other session found
  obtain rfl := stays (beq_iff_eq.mp closed)
  rw [kept]
  rfl

theorem Tells.trans {outcomes more : List Outcome} (first : Tells c ref observer w outcomes v)
    (second : Tells c ref observer v more u) : Tells c ref observer w (outcomes ++ more) u := by
  constructor
  · rw [List.filterMap_append]
    exact first.toHears.trans second.toHears
  · intro closing told
    exact (List.mem_append.mp told).elim (first.closings closing) (second.closings closing)
  · intro other told
    rw [List.filterMap_append] at told
    rcases List.mem_append.mp told with early | late
    · exact first.unclosed other early
    · -- What is not closed later was not closed before.
      by_contra closed
      have still := first.isClosed (Bool.not_eq_false _ ▸ closed)
      rw [second.unclosed other late] at still
      contradiction
  · intro other told
    rw [List.filterMap_append] at told
    rcases List.mem_append.mp told with early | late
    · exact second.isClosed (first.closed other early)
    · exact second.closed other late
  · rw [List.filterMap_append]
    refine List.nodup_append.mpr ⟨first.once, second.once, fun other early another late same => ?_⟩
    subst same
    have still := first.closed other early
    rw [second.unclosed other late] at still
    contradiction

theorem Hears.tells_one {outcome : Outcome}
    (hears : Hears c ref observer w ([outcome].filterMap Outcome.note?) v)
    (none : outcome.closed? = none) : Tells c ref observer w [outcome] v :=
  hears.tells fun _ member => List.mem_singleton.mp member ▸ none

theorem Watched.openChecked_tells (watched : Watched c ref observer w) {router : RouterId}
    {there : Router} (found : w.router? router = some there) (id : SessionId) (patterns : PatternSet)
    (least : Level) (renderLimit : Nat) :
    let opened := w.openChecked id router patterns least renderLimit
    Tells c ref observer w [openingOutcome opened] opened.1 := by
  unfold World.openChecked
  cases timed : w.timeOfDay .session with
  | error fault =>
    rw [World.arm_of_untimed timed]
    exact Hears.tells_one (.rest watched) rfl
  | ok wall =>
    let session : Session :=
      { w.armed id router patterns least renderLimit with phase := .capturing ⟨there.nextNumber⟩ }
    let started := w.enlist there wall session
    have armed := World.startCapturing_armed wall (w.armed id router patterns least renderLimit) found
    rw [World.arm_of_timed timed]
    dsimp only at armed ⊢
    rw [armed]
    have enlisted : Hears c ref observer w [] started := watched.enlist found wall rfl rfl
    have reported := enlisted.watched.report rfl (Level.le_refl _) (entry_opened session)
    have listed : (started.trace session.openingReport).session? ⟨w.sessions.length⟩ =
        some session := by
      rw [(World.steady_trace started session.openingReport).session?, World.session?_enlist,
        if_pos rfl]
    have outcome : openingOutcome (started.trace session.openingReport, .ok ⟨w.sessions.length⟩) =
        .opened session := by
      rw [openingOutcome, listed]
      rfl
    have heard : Tells c ref observer w [.opened session] (started.trace session.openingReport) :=
      (enlisted.trans reported).tells_one rfl
    rw [← outcome] at heard
    exact heard

theorem Watched.opening_tells (watched : Watched c ref observer w) (id : SessionId)
    (router : RouterId) (settings : Except Fault (PatternSet × Level × Nat))
    {begin : World → World × Except World.OpeningFault SessionRef}
    (same : begin w = match settings with
      | .error fault => w.refuseOpening fault
      | .ok (patterns, least, renderLimit) =>
        w.openChecked id router patterns least renderLimit) :
    Tells c ref observer w (opening router begin w).2 (opening router begin w).1 := by
  unfold opening
  cases found : w.router? router with
  | none => exact Hears.tells_one (.rest watched) rfl
  | some there =>
    rw [Option.elim_some, same]
    cases settings with
    | error fault =>
      have severe : Level.debug ≤ .warn := by decide
      exact (watched.report rfl severe (entry_refused fault)).tells_one rfl
    | ok asked => exact watched.openChecked_tells found id asked.1 asked.2.1 asked.2.2

theorem Watched.drain_tells (watched : Watched c ref observer w) {other : SessionRef}
    (apart : other ≠ ref) :
    Tells c ref observer w [.drained (w.drainSession other).2] (w.drainSession other).1 := by
  unfold World.drainSession
  cases found : w.session? other with
  | none => exact Hears.tells_one (.rest watched) rfl
  | some session => exact (watched.drain found apart).tells_one rfl

/-- A session returns at its closing what it showed right before, and shows the same right after: it
does not capture the report. -/
theorem Watched.events_close (watched : Watched c ref observer w) {other : SessionRef}
    {session : Session} (found : w.session? other = some session) :
    (w.close other).2.records = (w.events other).records ∧
      ((w.close other).1.events other).records = (w.events other).records := by
  obtain ⟨sink, held, frozen⟩ := watched.lawful.held (World.mem_of_session? found)
  have kept : (w.events other).records = sink.records := by
    have held : w.sink? session.sink = some sink := held
    rw [World.events_eq found, World.kept_eq, held]
    rfl
  have returned := congrArg Snapshot.records (World.snapshot_close found held frozen)
  have shown := congrArg Snapshot.records (watched.lawful.atRest_close found).events
  exact ⟨returned.trans kept.symm, shown.trans (returned.trans kept.symm)⟩

theorem Watched.close_tells (watched : Watched c ref observer w) {other : SessionRef}
    (apart : other ≠ ref) :
    Tells c ref observer w [closingOutcome w other] (w.close other).1 := by
  unfold closingOutcome
  cases found : w.session? other with
  | none =>
    rw [World.close, found]
    exact Hears.tells_one (.rest watched) rfl
  | some session =>
    obtain ⟨returned, shown⟩ := watched.events_close found
    rw [Option.elim_some]
    cases closed : session.isClosed with
    | true =>
      rw [World.close_of_closed found closed]
      exact Hears.tells_one (.rest watched) rfl
    | false =>
      rw [if_neg Bool.false_ne_true]
      have ended := World.close_of_unclosed found closed
      have marked : (w.close other).1.session? other =
          some { session with phase := .closed } := by
        rw [ended, (World.steady_trace _ _).session?, World.session?_retire, if_pos rfl, found]
        rfl
      have told := entry_closed w other session
      have quiet : Hears c ref observer w [] (w.retire other session) :=
        watched.retire found closed apart
      rw [ended] at told
      have reported := quiet.watched.report rfl (Level.le_refl _) told
      have heard : Hears c ref observer w
          ([.closed (firstClosing w other session)].filterMap Outcome.note?) (w.close other).1 := by
        rw [ended]
        exact quiet.trans reported
      refine ⟨heard, fun closing member => ?_, ?_, ?_, List.pairwise_singleton _ _⟩
      · obtain rfl := Outcome.closed.inj (List.mem_singleton.mp member)
        exact ⟨returned, shown⟩
      · intro again member
        have same : again = other := List.mem_singleton.mp member
        rw [same, found]
        exact closed
      · intro again member
        have same : again = other := List.mem_singleton.mp member
        rw [same, marked]
        rfl

/-! ### Waits -/

/-- Whatever others do, they leave the observer alone. -/
def AllTell (c : Course) (ref : SessionRef) (observer : Session)
    (others : List (Due (List Outcome))) : Prop :=
  ∀ due ∈ others, ∀ w, Watched c ref observer w →
    Tells c ref observer w (due.act w).2 (due.act w).1

theorem Watched.sleepUntil_tells (began wake : Nat) {others : List (Due (List Outcome))}
    (tell : AllTell c ref observer others) (watched : Watched c ref observer w) :
    Tells c ref observer w (World.sleepUntil began wake others w).2.1.flatten
      (World.sleepUntil began wake others w).1 := by
  induction others generalizing w with
  | nil => exact Hears.tells (watched.idle _) (by simp [World.sleepUntil])
  | cons due rest ih =>
    obtain ⟨first, later⟩ := List.forall_mem_cons.mp tell
    unfold World.sleepUntil
    split
    · have slept : Tells c ref observer w [] (w.advanceTo (began + due.delay)) :=
        Hears.tells (watched.idle _) (by simp)
      have acted := first _ slept.watched
      exact slept.trans (acted.trans (ih later acted.watched))
    · exact ih later watched

theorem Watched.waitExpired_tells (watched : Watched c ref observer w) {other : SessionRef}
    {session : Session} (found : w.session? other = some session) (filter : Filter) (began : Nat) :
    let expired := w.waitExpired other filter began
    Tells c ref observer w [.timedOut session.id (wholeMillis (expired.1.elapsed - began))]
      expired.1 := by
  intro expired
  have same : expired.1.elapsed = w.elapsed := (World.atOnce_trace _ _).elapsed
  have severe : Level.debug ≤ .warn := by decide
  have told := entry_timedOut session expired.2 rfl (wholeMillis (w.elapsed - began))
  rw [same]
  simp only [expired, World.waitExpired, found]
  exact (watched.report rfl severe told).tells_one rfl

/-- A wait tells of what others do in its sleeps, and of itself when it was in vain. -/
theorem Watched.waitRounds_tells {other : SessionRef} {session : Session} {filter : Filter}
    {policy : WaitPolicy} {began : Nat} (rounds : Nat) {others : List (Due (List Outcome))}
    (tell : AllTell c ref observer others) (watched : Watched c ref observer w)
    (found : w.session? other = some session) :
    let ended := World.waitRounds other filter policy began rounds w others
    Tells c ref observer w (ended.2.during.flatten ++ [waitOutcome session.id ended.2]) ended.1 := by
  induction rounds generalizing w session others with
  | zero => exact watched.waitExpired_tells found filter began
  | succ rounds ih =>
    unfold World.waitRounds
    cases w.poll other filter policy began with
    | found record => exact Hears.tells_one (.rest watched) rfl
    | remaining nanos =>
      let wake := w.elapsed + policy.sleepFor nanos
      have slept := watched.sleepUntil_tells began wake tell
      obtain ⟨phase, kept, _⟩ := slept.sessions other session found
      have left : AllTell c ref observer (World.sleepUntil began wake others w).2.2 := by
        rw [World.sleepUntil_left]
        exact fun due member => tell due (List.mem_filter.mp member).1
      have later := slept.trans (ih left slept.watched kept)
      rw [← List.append_assoc, ← List.flatten_append] at later
      exact later
    | _ => exact watched.waitExpired_tells found filter began

/-! ### Runs -/

mutual

theorem Watched.run_tells {c : Course} {ref : SessionRef} {observer : Session} {w : World}
    (watched : Watched c ref observer w) :
    (step : Step) → step.spares ref = true → Tells c ref observer w (step.run w).2 (step.run w).1
  | .pass nanos, _ => Hears.tells (watched.idle _) (by simp [Step.run])
  | .dispatch router event, spared => by
    rw [Step.spares, bne_iff_ne] at spared
    exact Hears.tells (watched.dispatch router spared) (by simp [Step.run])
  | .openSession id router patterns least, _ => by
    let settings := (PatternSet.parse patterns).map fun parsed => (parsed, least, Report.usualLimit)
    refine watched.opening_tells id router settings ?_
    unfold World.openSession settings
    cases PatternSet.parse patterns <;> rfl
  | .openWithSettings id router settings, _ => by
    let valid := settings.validate.map fun valid => (valid.1, valid.2, settings.renderLimit)
    refine watched.opening_tells id router valid ?_
    unfold World.openWithSettings valid
    cases settings.validate <;> rfl
  | .drain other, spared => by
    rw [Step.spares, bne_iff_ne] at spared
    exact watched.drain_tells spared
  | .waitFor other filter policy others, spared => by
    rw [Step.spares] at spared
    rw [Step.run]
    cases found : w.session? other with
    | none => exact Hears.tells_one (.rest watched) rfl
    | some session =>
      have told : let ended := w.waitFor other filter policy (dues others)
          Tells c ref observer w (ended.2.during.flatten ++ [waitOutcome session.id ended.2])
            ended.1 :=
        watched.waitRounds_tells (World.roundsEnough policy) (dues_tell others spared) found
      exact told
  | .close other, spared => by
    rw [Step.spares, bne_iff_ne] at spared
    exact watched.close_tells spared
  | .drop other, spared => by
    rw [Step.spares, bne_iff_ne] at spared
    exact watched.close_tells spared

theorem dues_tell {c : Course} {ref : SessionRef} {observer : Session} :
    (others : List (Nat × Step)) → duesSpare ref others = true → AllTell c ref observer (dues others)
  | [], _ => by simp [AllTell, dues]
  | entry :: rest, spared => by
    rw [duesSpare, Bool.and_eq_true] at spared
    rw [AllTell, dues, List.forall_mem_cons]
    exact ⟨due_tells entry spared.1, dues_tell rest spared.2⟩

theorem due_tells {c : Course} {ref : SessionRef} {observer : Session} :
    (entry : Nat × Step) → dueSpares ref entry = true → ∀ w, Watched c ref observer w →
      Tells c ref observer w ((due entry).act w).2 ((due entry).act w).1
  | (_, step), spared, _, watched => by
    rw [dueSpares] at spared
    rw [due]
    exact watched.run_tells step spared

end

theorem Watched.runAll_tells {steps : List Step} (spared : ∀ step ∈ steps, step.spares ref = true)
    (watched : Watched c ref observer w) :
    Tells c ref observer w (runAll steps w).2 (runAll steps w).1 := by
  induction steps generalizing w with
  | nil => exact Hears.tells (.rest watched) (by simp [runAll])
  | cons step rest ih =>
    obtain ⟨first, others⟩ := List.forall_mem_cons.mp spared
    have told := watched.run_tells step first
    exact told.trans (ih others told.watched)

end

/-- Wherever in a run it begins, and whatever is done with other sessions from then on, a session that
observes own events on the subscriber gets, in order, the entries of all openings, refusals, waits
in vain and first closings, and no others under that name. No session is closed for the first time
twice, and none captures that it is closed. -/
theorem audit_trail {origin : Instant} {earlier : List Action} {c : Course}
    (reached : c ∈ trail earlier (Course.start origin)) {ref : SessionRef} {observer : Session}
    (found : c.world.session? ref = some observer) (unclosed : observer.isClosed = false)
    (own : c.world.ownEvents? observer.router = some true)
    (subscribed : c.world.subscriber = observer.router)
    (named : observer.patterns.matchesName trailName = true) (least : observer.least ≤ .debug)
    {steps : List Step} (spared : ∀ step ∈ steps, step.spares ref = true) :
    let last := (runAll steps c.world).1
    let outcomes := (runAll steps c.world).2
    (∃ gained, (last.events ref).records = (c.world.events ref).records ++ gained ∧
        trailOf gained = outcomes.filterMap Outcome.note?) ∧
      (outcomes.filterMap Outcome.closed?).Nodup ∧
      (∀ other ∈ outcomes.filterMap Outcome.closed?,
        (c.world.session? other).any Session.isClosed = false) ∧
      ∀ closing, .closed closing ∈ outcomes →
        closing.returned.records = closing.before ∧ closing.after = closing.before := by
  have lawful := lawful_of_mem_trail reached
  have watched : Watched c ref observer c.world :=
    ⟨lawful.steady rfl rfl (.refl _), found, unclosed, own, subscribed, named, least⟩
  have told := watched.runAll_tells spared
  refine ⟨?_, told.once, told.unclosed, told.closings⟩
  rw [World.events_eq found, World.events_eq told.watched.found]
  exact told.gained

/-- A router for own events that is the subscriber, and a session that observes them. -/
def observed : Course :=
  let c := Client.runAll [.newRouter true] (Course.start ⟨0, 0⟩)
  Client.runAll [.openSession ⟨1⟩ ⟨1⟩ [trailName] .debug]
    (c.moved { c.world with subscriber := ⟨1⟩ })

/-- Another observer and a plain session, one refusal, and one wait in vain in which the plain session
is closed. -/
def observedRun : List Step :=
  [.openSession ⟨2⟩ ⟨1⟩ ["logcap_core.*"] .trace,
    .openSession ⟨3⟩ ⟨0⟩ ["app..part"] .info,
    .openSession ⟨3⟩ ⟨0⟩ ["app.*"] .info,
    .dispatch ⟨0⟩ (Event.plain .info "app.part" "heard"),
    .waitFor ⟨1⟩ (Filter.ofCalls [.message (.equals "never")]) ⟨2000000, 1000000⟩
      [(1000000, .close ⟨2⟩)],
    .drop ⟨2⟩,
    .close ⟨1⟩,
    .drop ⟨1⟩]

theorem audit_trail_observedRun :
    let last := (runAll observedRun observed.world).1
    let outcomes := (runAll observedRun observed.world).2
    (∃ gained, (last.events ⟨0⟩).records = (observed.world.events ⟨0⟩).records ++ gained ∧
        trailOf gained = outcomes.filterMap Outcome.note?) ∧
      (outcomes.filterMap Outcome.note?).map (fun event =>
        (event.level, event.fields.get? "op", event.fields.get? "captured")) =
        [(.debug, some "session_open", none), (.warn, some "session_open", none),
          (.debug, some "session_open", none), (.debug, some "session_close", some "1"),
          (.warn, some "session_wait", none), (.debug, some "session_close", some "5")] := by
  let session : Session :=
    ⟨⟨1⟩, ⟨1⟩, ⟨0⟩, ⟨[.exact trailName], by decide⟩, .debug, Report.usualLimit, 0, .capturing ⟨1⟩⟩
  have reached : observed ∈ trail
      [.newRouter true, .within ⟨1⟩ [.openSession ⟨1⟩ ⟨1⟩ [trailName] .debug]]
      (Course.start ⟨0, 0⟩) := by
    simp [trail, Action.inside, observed, Client.runAll]
  have found : observed.world.session? ⟨0⟩ = some session := by decide +kernel
  have spared : ∀ step ∈ observedRun, step.spares ⟨0⟩ = true := by decide +kernel
  obtain ⟨heard, _⟩ := audit_trail reached found rfl (by decide +kernel) (by decide +kernel)
    (by decide +kernel) (by decide) spared
  exact ⟨heard, by decide +kernel⟩

end Audit

end EventCapture
