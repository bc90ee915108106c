import EventCapture.Proofs.Deeds
import EventCapture.Proofs.SideBySide

/-! Openings of sessions.

An opening is refused for the first fault of what it is given and leaves nothing behind: no route,
no session, and no number that is used up. All that may be seen of it is a warning, which reaches
only what a subscriber that routes own events leads it to. An opening that succeeds adds one route
at the end of one table, whichever way the session was asked for.
-/

set_option autoImplicit false

namespace EventCapture

/-! ### Faults of settings -/

/-- What settings are refused for: the first fault, of the patterns, of the level, or of the
timeout. -/
inductive Settings.FirstFault (settings : Settings) : Fault → Prop where
  | patterns {fault : Fault} (malformed : PatternSet.parse settings.patterns = .error fault) :
      FirstFault settings fault
  | level {patterns : PatternSet} {fault : Fault}
      (read : PatternSet.parse settings.patterns = .ok patterns)
      (unknown : Level.parse settings.minimumLevel = .error fault) : FirstFault settings fault
  | timeout {patterns : PatternSet} {least : Level}
      (read : PatternSet.parse settings.patterns = .ok patterns)
      (known : Level.parse settings.minimumLevel = .ok least)
      (zero : settings.wait.timeout = 0) : FirstFault settings .zeroTimeout

/-- What settings without a fault ask for. -/
structure Settings.AsksFor (settings : Settings) (patterns : PatternSet) (least : Level) :
    Prop where
  patterns : PatternSet.parse settings.patterns = .ok patterns
  level : Level.parse settings.minimumLevel = .ok least
  lasting : settings.wait.timeout ≠ 0

namespace Settings

/-- Settings are refused for their first fault, or ask for something. -/
theorem validate_cases (settings : Settings) :
    (∃ fault, settings.validate = .error fault ∧ settings.FirstFault fault) ∨
      ∃ patterns least, settings.validate = .ok (patterns, least) ∧
        settings.AsksFor patterns least := by
  unfold validate
  cases read : PatternSet.parse settings.patterns with
  | error fault => exact .inl ⟨fault, rfl, .patterns read⟩
  | ok patterns =>
    cases known : Level.parse settings.minimumLevel with
    | error fault => exact .inl ⟨fault, rfl, .level read known⟩
    | ok least =>
      by_cases zero : settings.wait.timeout = 0
      · exact .inl ⟨.zeroTimeout, if_pos zero, .timeout read known zero⟩
      · exact .inr ⟨patterns, least, if_neg zero, read, known, zero⟩

theorem validate_of_firstFault {settings : Settings} {fault : Fault}
    (first : settings.FirstFault fault) : settings.validate = .error fault := by
  unfold validate
  cases first with
  | patterns malformed => rw [malformed]
  | level read unknown => simp only [read, unknown]
  | timeout read known zero => simp only [read, known, zero, if_true]

theorem validate_of_asksFor {settings : Settings} {patterns : PatternSet} {least : Level}
    (asks : settings.AsksFor patterns least) : settings.validate = .ok (patterns, least) := by
  unfold validate
  simp only [asks.patterns, asks.level, if_neg asks.lasting]

theorem validate_eq_error_iff {settings : Settings} {fault : Fault} :
    settings.validate = .error fault ↔ settings.FirstFault fault := by
  refine ⟨fun refused => ?_, validate_of_firstFault⟩
  obtain ⟨other, failed, first⟩ | ⟨_, _, valid, _⟩ := settings.validate_cases
  · obtain rfl := Except.error.inj (failed.symm.trans refused)
    exact first
  · rw [valid] at refused
    contradiction

end Settings

namespace World

/-! ### Refusals -/

/-- How often an own event reaches a sink from the current subscriber: once for each route to it
that admits the event, if the subscriber routes own events at all. -/
def ownDeliveries (w : World) (event : Event) (id : SinkId) : Nat :=
  (w.router? w.subscriber).elim 0 fun there =>
    if there.ownEvents then
      (there.routes.filter fun route =>
        route.admits event.logger event.level && route.sink == id).length
    else 0

/-- One world comes from another without a trace but for a warning on own events. -/
structure NoTrace (before after : World) : Prop where
  routers : after.routers = before.routers
  sessions : after.sessions = before.sessions
  scope : after.scope = before.scope
  atOnce : AtOnce before after
  told : ∃ event : Event, event.level = .warn ∧ Router.isOwnName event.logger = true ∧
    ∀ id, after.sink? id =
      (before.sink? id).map
        (fun sink => (sink.record before.elapsed event).1)^[before.ownDeliveries event id]

theorem count_select (w : World) {event : Event} (own : Router.isOwnName event.logger = true)
    (id : SinkId) :
    (w.select w.subscriber event.logger event.level).count id = w.ownDeliveries event id := by
  unfold select ownDeliveries
  cases w.router? w.subscriber with
  | none => rfl
  | some there =>
    simp only [Option.elim_some, Router.targets, Router.ignores, own, Bool.and_true]
    cases there.ownEvents with
    | false => rfl
    | true =>
      simp only [Bool.not_true, Bool.false_eq_true, if_false, if_true]
      rw [List.count_eq_countP, List.countP_map, List.countP_filter, List.countP_eq_length_filter]
      refine congrArg (fun keep => (there.routes.filter keep).length) (funext fun route => ?_)
      exact Bool.and_comm _ _

theorem noTrace_refuseOpening (w : World) (fault : Fault) :
    NoTrace w (w.refuseOpening fault).1 := by
  let report := Session.opening.failed (.configuration fault) 0 []
  have own : Router.isOwnName report.captured.logger = true := Client.isOwnName_report _ rfl _ _ _
  have steady := steady_trace w report
  have told (id : SinkId) : (w.trace report).sink? id =
      (w.sink? id).map (fun sink => (sink.record w.elapsed report.captured).1)^[
        w.ownDeliveries report.captured id] := by
    rw [trace_eq, sink?_recordAll, ← count_select w own id]
    rfl
  exact ⟨steady.routers, steady.sessions, (blind_trace report).scope w, atOnce_trace w report,
    report.captured, rfl, own, told⟩

/-! ### Openings that succeed -/

/-- One world comes from another with one more session, whose route is the last of its router and
takes the next number. No other router and no other session is changed. -/
structure Enrolled (before after : World) (id : SessionId) (router : RouterId) (there : Router)
    (patterns : PatternSet) (least : Level) (renderLimit : Nat) (ref : SessionRef) : Prop where
  ref : ref = ⟨before.sessions.length⟩
  routers : after.routers = before.routers.set router.index
    { there with
      routes := there.routes ++ [⟨⟨there.nextNumber⟩, patterns, least, ⟨before.sinks.length⟩⟩]
      nextNumber := there.nextNumber + 1 }
  sessions : after.sessions = before.sessions ++
    [⟨id, router, ⟨before.sinks.length⟩, patterns, least, renderLimit, before.elapsed,
      .capturing ⟨there.nextNumber⟩⟩]

theorem enrolled_openChecked {w : World} {router : RouterId} {there : Router}
    (found : w.router? router = some there) {wall : Instant}
    (timed : w.timeOfDay .session = .ok wall) (id : SessionId) (patterns : PatternSet)
    (least : Level) (renderLimit : Nat) :
    Enrolled w (w.openChecked id router patterns least renderLimit).1 id router there patterns least
      renderLimit ⟨w.sessions.length⟩ := by
  let armed := w.armed id router patterns least renderLimit
  let session : Session := { armed with phase := .capturing ⟨there.nextNumber⟩ }
  have enlisted : (w.openChecked id router patterns least renderLimit).1 =
      (w.enlist there wall session).trace session.openingReport := by
    unfold openChecked
    rw [arm_of_timed timed]
    dsimp only
    rw [startCapturing_armed wall armed found]
    rfl
  have steady := steady_trace (w.enlist there wall session) session.openingReport
  rw [enlisted]
  exact ⟨rfl, steady.routers, steady.sessions⟩

/-- Nothing but the time of day can be in the way of an opening that asks for something. -/
theorem openChecked_cases (w : World) (id : SessionId) (router : RouterId) (patterns : PatternSet)
    (least : Level) (renderLimit : Nat) :
    (∃ fault, w.timeOfDay .session = .error fault ∧
        w.openChecked id router patterns least renderLimit = (w, .error (.untimed fault))) ∨
      ∃ wall v, w.timeOfDay .session = .ok wall ∧
        w.openChecked id router patterns least renderLimit = (v, .ok ⟨w.sessions.length⟩) := by
  rw [openChecked_eq]
  cases w.timeOfDay .session with
  | error fault => exact .inl ⟨fault, rfl, rfl⟩
  | ok wall => exact .inr ⟨wall, _, rfl, rfl⟩

/-- How an opening ends: refused for a fault, untimed, or with what is asked for. -/
structure Opens (w : World) (id : SessionId) (router : RouterId) (faulty : Fault → Prop)
    (asks : PatternSet → Level → Nat → Prop) (opened : World × Except OpeningFault SessionRef) :
    Prop where
  refused_iff : ∀ failure, opened.2 = .error (.refused failure) ↔
    ∃ fault, faulty fault ∧ failure = .configuration fault
  noTrace : ∀ failure, opened.2 = .error (.refused failure) → NoTrace w opened.1
  ok_iff : (∃ ref, opened.2 = .ok ref) ↔
    (∃ patterns least limit, asks patterns least limit) ∧ ∃ wall, w.timeOfDay .session = .ok wall
  /-- Without a time of day nothing is made, and nobody is told. -/
  untimed : ∀ fault, opened.2 = .error (.untimed fault) → opened.1 = w
  enrolled : ∀ ref there, opened.2 = .ok ref → w.router? router = some there →
    ∃ patterns least limit, asks patterns least limit ∧
      Enrolled w opened.1 id router there patterns least limit ref

section

variable {w : World} {id : SessionId} {router : RouterId} {faulty : Fault → Prop}
  {asks : PatternSet → Level → Nat → Prop}

theorem opens_of_fault {fault : Fault} (fails : ∀ other, faulty other ↔ other = fault)
    (never : ∀ patterns least limit, ¬ asks patterns least limit) :
    Opens w id router faulty asks (w.refuseOpening fault) where
  refused_iff := by
    intro failure
    simp only [fails, exists_eq_left]
    exact ⟨fun same => by cases same; rfl, fun same => by rw [same]; rfl⟩
  noTrace := fun _ _ => noTrace_refuseOpening w fault
  ok_iff := by
    constructor
    · rintro ⟨_, opened⟩
      cases opened
    · rintro ⟨⟨patterns, least, limit, asked⟩, _⟩
      exact absurd asked (never patterns least limit)
  untimed := fun _ untimed => by cases untimed
  enrolled := fun _ _ opened => by cases opened

theorem opens_of_asked {patterns : PatternSet} {least : Level} {limit : Nat}
    (faultless : ∀ fault, ¬ faulty fault) (asked : asks patterns least limit) :
    Opens w id router faulty asks (w.openChecked id router patterns least limit) := by
  obtain ⟨fault, untimed, opened⟩ | ⟨wall, v, timed, opened⟩ :=
    w.openChecked_cases id router patterns least limit
  · rw [opened]
    refine ⟨fun failure => ⟨nofun, ?_⟩, nofun, ⟨nofun, ?_⟩, fun _ _ => rfl, nofun⟩
    · rintro ⟨other, refused, _⟩
      exact absurd refused (faultless other)
    · rintro ⟨_, wall, timed⟩
      rw [untimed] at timed
      contradiction
  · refine ⟨fun failure => ⟨?_, ?_⟩, ?_, ?_, ?_, fun ref there made found => ?_⟩
    · rw [opened]
      exact nofun
    · rintro ⟨other, refused, _⟩
      exact absurd refused (faultless other)
    · rw [opened]
      exact nofun
    · rw [opened]
      exact ⟨fun _ => ⟨⟨_, _, _, asked⟩, wall, timed⟩, fun _ => ⟨_, rfl⟩⟩
    · rw [opened]
      exact nofun
    · have enrolled := enrolled_openChecked found timed id patterns least limit
      rw [opened] at made
      obtain rfl := Except.ok.inj made
      exact ⟨patterns, least, limit, asked, enrolled⟩

theorem opens_openSession (w : World) (id : SessionId) (router : RouterId) (patterns : List String)
    (least : Level) :
    Opens w id router (fun fault => PatternSet.parse patterns = .error fault)
      (fun parsed level limit =>
        PatternSet.parse patterns = .ok parsed ∧ level = least ∧ limit = Report.usualLimit)
      (w.openSession id router patterns least) := by
  unfold openSession
  cases PatternSet.parse patterns with
  | error fault =>
    refine opens_of_fault (fun other => ?_) fun _ _ _ asked => nomatch asked.1
    exact ⟨fun same => (Except.error.inj same).symm, congrArg _ ∘ Eq.symm⟩
  | ok parsed => exact opens_of_asked nofun ⟨rfl, rfl, rfl⟩

theorem opens_openWithSettings (w : World) (id : SessionId) (router : RouterId)
    (settings : Settings) :
    Opens w id router settings.FirstFault
      (fun parsed level limit => settings.AsksFor parsed level ∧ limit = settings.renderLimit)
      (w.openWithSettings id router settings) := by
  unfold openWithSettings
  obtain ⟨fault, refused, first⟩ | ⟨patterns, least, valid, asks⟩ := settings.validate_cases
  · rw [refused]
    refine opens_of_fault (fun other => ?_) fun parsed level _ asked => ?_
    · rw [← Settings.validate_eq_error_iff, refused]
      exact ⟨fun same => (Except.error.inj same).symm, congrArg _ ∘ Eq.symm⟩
    · rw [Settings.validate_of_asksFor asked.1] at refused
      contradiction
  · rw [valid]
    refine opens_of_asked (fun fault first => ?_) ⟨asks, rfl⟩
    rw [Settings.validate_of_firstFault first] at valid
    contradiction

end

/-- A scoped capture that cannot be opened ends with that, and nothing is run in it. -/
theorem capture_of_unopened {α : Type} {w : World} {id : SessionId} {patterns : List String}
    {least : Level} {fault : OpeningFault}
    (failed : (w.openSession id processRouter patterns least).2 = .error fault)
    (action : World → World × α) :
    w.capture id patterns least action =
      ((w.openSession id processRouter patterns least).1, .error fault) := by
  unfold capture
  cases opened : w.openSession id processRouter patterns least with
  | mk v result =>
    rw [opened] at failed
    obtain rfl : result = .error fault := failed
    rfl

/-! ### One session, two render limits -/

open Scenario (Apart RepliesAlike)

section

variable {w : World} {router : RouterId} {settings : Settings} {patterns : PatternSet}
  {least : Level}

theorem apart_joined (w : World) (id : SessionId) (router : RouterId) (patterns : PatternSet)
    (least : Level) (first second : Nat) (wall : Instant) :
    Apart ⟨w.sessions.length⟩ first second (joined id router patterns least first wall w).1
      (joined id router patterns least second wall w).1 where
  limit := by
    unfold limit? session? joined
    rw [List.getElem?_concat_length, Option.map_some]
    rfl
  same := by
    have modified : (w.sessions ++ [w.armed id router patterns least first]).modify
          w.sessions.length (·.showing second) =
        w.sessions ++ [w.armed id router patterns least second] := by
      rw [List.modify_eq_take_drop, List.take_left, List.drop_left]
      rfl
    unfold showing joined
    rw [modified]
  names := List.forall₂_same.mpr fun named _ => ⟨rfl, .same named.2⟩

/-- Sessions that ask for the same but a render limit are made side by side. -/
theorem apart_openChecked (id : SessionId) (first second : Nat) {ref : SessionRef}
    (made : (w.openChecked id router patterns least second).2 = .ok ref) :
    ∃ x y, w.openChecked id router patterns least first = (x, .ok ref) ∧
      w.openChecked id router patterns least second = (y, .ok ref) ∧
      Apart ref first second x y := by
  rw [openChecked_eq] at made
  simp only [openChecked_eq]
  cases timed : w.timeOfDay .session with
  | error fault => rw [timed] at made; contradiction
  | ok wall =>
    rw [timed] at made
    obtain rfl := Except.ok.inj made
    have joined := apart_joined w id router patterns least first second wall
    have later := joined.blind (blind_announced id patterns least ⟨w.sessions.length⟩)
    exact ⟨_, _, rfl, rfl, later.1⟩

theorem apart_openings (asks : settings.AsksFor patterns least) {id : SessionId} {ref : SessionRef}
    (made : (w.openWithSettings id router settings).2 = .ok ref) :
    ∃ x y, w.openSession id router settings.patterns least = (x, .ok ref) ∧
      w.openWithSettings id router settings = (y, .ok ref) ∧
      Apart ref Report.usualLimit settings.renderLimit x y := by
  unfold openWithSettings openSession at *
  rw [Settings.validate_of_asksFor asks] at made ⊢
  rw [asks.patterns]
  exact apart_openChecked id Report.usualLimit settings.renderLimit made

end

/-- Whichever way a session is asked for, from then on every program does the same, and gets the
same replies but for what the reports of that session show. -/
theorem runAll_openings {w : World} {router : RouterId} {settings : Settings}
    {patterns : PatternSet} {least : Level} (asks : settings.AsksFor patterns least)
    {id : SessionId} {ref : SessionRef} (made : (w.openWithSettings id router settings).2 = .ok ref)
    {on : Option String} (there : Scenario.openingRouter? w on = some router) (name : String)
    (later : List Scenario.Step) :
    Scenario.Beside ref Report.usualLimit settings.renderLimit
      (RepliesAlike Report.usualLimit settings.renderLimit)
      (Scenario.runAll (.openSession id on settings.patterns least name :: later) w)
      (Scenario.runAll (.openWithSettings id on settings name :: later) w) := by
  obtain ⟨x, y, opened, opened', apart⟩ := apart_openings asks made
  obtain ⟨kept, reply⟩ := apart.opened name (.ok ref)
  obtain ⟨ran, replies⟩ := Scenario.runAll_keeps later _ _ kept
  simp only [Scenario.runAll, Scenario.Step.run, there, opened, opened']
  exact ⟨ran, .cons reply replies⟩

/-- An opening is refused just for the first fault of what it is given, and then leaves nothing
behind but a warning on own events; a scoped capture then runs nothing. An opening that succeeds
adds one route at the end of the table. From settings comes the same session as from their patterns
and their level, but for how much its reports show. -/
theorem openings_exact (w : World) (id : SessionId) (router : RouterId) :
    (∀ patterns least,
      Opens w id router (fun fault => PatternSet.parse patterns = .error fault)
        (fun parsed level limit =>
          PatternSet.parse patterns = .ok parsed ∧ level = least ∧ limit = Report.usualLimit)
        (w.openSession id router patterns least)) ∧
      (∀ settings,
        Opens w id router settings.FirstFault
          (fun parsed level limit => settings.AsksFor parsed level ∧ limit = settings.renderLimit)
          (w.openWithSettings id router settings)) ∧
      (∀ {α : Type} (action : World → World × α) patterns least fault,
        (w.openSession id processRouter patterns least).2 = .error fault →
          w.capture id patterns least action =
            ((w.openSession id processRouter patterns least).1, .error fault)) ∧
      ∀ settings patterns least ref, settings.AsksFor patterns least →
        (w.openWithSettings id router settings).2 = .ok ref →
          (w.openSession id router settings.patterns least).2 = .ok ref ∧
            ∀ on name later, Scenario.openingRouter? w on = some router →
              let one := Scenario.runAll
                (.openSession id on settings.patterns least name :: later) w
              let other := Scenario.runAll (.openWithSettings id on settings name :: later) w
              Apart ref Report.usualLimit settings.renderLimit one.1 other.1 ∧
                RepliesAlike Report.usualLimit settings.renderLimit one.2 other.2 := by
  refine ⟨w.opens_openSession id router, w.opens_openWithSettings id router,
    fun action _ _ _ failed => capture_of_unopened failed action,
    fun settings patterns least ref asks made => ⟨?_, fun on name later there => ?_⟩⟩
  · obtain ⟨_, _, opened, _⟩ := apart_openings asks made
    rw [opened]
  · obtain ⟨apart, replies⟩ := runAll_openings asks made there name later
    exact ⟨apart, replies⟩

/-- A session captures own events on the subscriber, which is not the router of the process. -/
def overheard : World :=
  let c := Client.runAll [.newRouter true, .openSession ⟨1⟩ ⟨1⟩ ["*"] .warn]
    (Client.Course.start ⟨0, 0⟩)
  { c.world with subscriber := ⟨1⟩ }

/-- Settings with every fault that settings can have; the first is in the second pattern. -/
def faultySettings : Settings := ⟨["app.*", "app..part"], "loud", ⟨0, 10⟩, 3⟩

/-- Settings of a session whose reports show one record. -/
def briefSettings : Settings := ⟨["app.*"], " Info ", ⟨1, 10⟩, 1⟩

/-- A program that gets reports: of two errors, of a wait in vain, and of a view that is kept. -/
def reportingSteps : List Scenario.Step :=
  let event (level : Level) := Event.plain level "app.part" "full"
  [.processRouter (some "r"), .dispatch "r" (event .error), .dispatch "r" (event .error),
    .query "s" .checkNoErrors,
    .waitFor "s" (Filter.ofCalls [.message (.equals "never")]) ⟨1000000, 1000000⟩
      [(0, .dispatch "r" (event .warn))],
    .assertions "s" none "v", .close "s" none, .query "v" .checkNoErrors]

theorem openings_exact_overheard :
    let refused := overheard.openWithSettings ⟨2⟩ processRouter faultySettings
    let made := overheard.openWithSettings ⟨2⟩ processRouter briefSettings
    refused.2 = .error (.refused (.configuration (.emptySegment "app..part"))) ∧
      NoTrace overheard refused.1 ∧ (refused.1.events ⟨0⟩).size = 1 ∧
      (∃ v, ∀ action : World → World × Unit,
        overheard.capture ⟨2⟩ [] .info action =
          (v, .error (.refused (.configuration .noPatterns)))) ∧
      ∃ ref patterns there, made.2 = .ok ref ∧ overheard.router? processRouter = some there ∧
        Enrolled overheard made.1 ⟨2⟩ processRouter there patterns .info 1 ref ∧
        let one := Scenario.runAll
          (.openSession ⟨2⟩ none ["app.*"] .info "s" :: reportingSteps) overheard
        let other := Scenario.runAll
          (.openWithSettings ⟨2⟩ none briefSettings "s" :: reportingSteps) overheard
        Apart ref 50 1 one.1 other.1 ∧ RepliesAlike 50 1 one.2 other.2 := by
  intro refused made
  obtain ⟨plain, bySettings, captures, alike⟩ := openings_exact overheard ⟨2⟩ processRouter
  have first : faultySettings.FirstFault (.emptySegment "app..part") := .patterns rfl
  have failed := ((bySettings faultySettings).refused_iff _).mpr ⟨_, first, rfl⟩
  have asks : briefSettings.AsksFor ⟨[.descendants "app"], by decide⟩ .info :=
    ⟨rfl, rfl, by decide⟩
  obtain ⟨ref, opened⟩ := (bySettings briefSettings).ok_iff.mpr
    ⟨⟨_, _, _, asks, rfl⟩, ⟨0, 0⟩, by decide +kernel⟩
  have empty := ((plain [] .info).refused_iff _).mpr ⟨.noPatterns, rfl, rfl⟩
  obtain ⟨there, found⟩ : ∃ there, overheard.router? processRouter = some there :=
    Option.isSome_iff_exists.mp (by decide +kernel)
  obtain ⟨patterns, least, limit, asked, enrolled⟩ :=
    (bySettings briefSettings).enrolled ref there opened found
  obtain ⟨named, rfl⟩ := asked
  obtain rfl := Except.ok.inj (named.level.symm.trans asks.level)
  obtain ⟨_, later⟩ := alike briefSettings _ _ ref asks opened
  refine ⟨failed, (bySettings faultySettings).noTrace _ failed, by decide +kernel,
    ⟨_, fun action => captures action [] .info _ empty⟩, ref, patterns, there, opened, found,
    enrolled, ?_⟩
  exact later none "s" reportingSteps rfl

end World

end EventCapture
