import EventCapture.Proofs.Client

/-! What a client can do to its world, said once.

An action is made of moves, each of which changes one thing, and of emissions, which select their
targets at one state and record at a later one. So one state leads to another by a passage of moves
and emissions, and what every move and every emission keeps is kept by every run.
-/

set_option autoImplicit false

namespace EventCapture

namespace Client

/-- Record an event in the sinks that were selected for it at an earlier state. -/
def Course.emit (c since : Course) (router : RouterId) (event : Event) : Course :=
  (c.moved (c.world.recordAll (since.world.select router event.logger event.level) event).1).noted
    (.emitted since.log.length router event)

/-- One change of one thing. -/
inductive Move (c : Course) : Course → Prop where
  /-- Time passes, or another router becomes the subscriber. -/
  | idle {w : World} (sinks : w.sinks = c.world.sinks) (routers : w.routers = c.world.routers)
      (sessions : w.sessions = c.world.sessions) : Move c (c.moved w)
  | newRouter (ownEvents : Bool) : Move c (c.moved (c.world.newRouter ownEvents).1)
  | newSink (wall : Instant) :
      Move c
        { c with
          world := { c.world with sinks := c.world.sinks ++ [Sink.start c.world.elapsed wall] }
          sinks := c.sinks ++ [⟨c.world.sinks.length⟩] }
  /-- A sink of the client's own is replaced by another. -/
  | touch {id : SinkId} (own : id ∈ c.sinks) (sink : Sink) :
      Move c (c.moved (c.world.setSink id sink))
  | attach {id : RouterId} {router : Router} {sink : SinkId}
      (found : c.world.router? id = some router) (own : sink ∈ c.sinks) (patterns : PatternSet)
      (least : Level) :
      Move c
        { c with
          world := c.world.setRouter id (router.attach patterns least sink).1
          handles := c.handles ++ [⟨id, ⟨⟨router.nextNumber⟩, patterns, least, sink⟩, true⟩] }
  | detach {place : Nat} {handle : Handle} (held : c.handles[place]? = some handle) :
      Move c
        { c with
          world := (c.world.detach handle.router handle.route.id).1
          handles := c.handles.set place { handle with attached := false } }
  | opened {router : Router} {session : Session} (wall : Instant)
      (found : c.world.router? session.router = some router)
      (sink : session.sink = ⟨c.world.sinks.length⟩)
      (phase : session.phase = .capturing ⟨router.nextNumber⟩) :
      Move c ((c.moved (c.world.enlist router wall session)).noted
        (.opened ⟨c.world.sessions.length⟩))
  | drained {ref : SessionRef} {session : Session} (found : c.world.session? ref = some session) :
      Move c ((c.moved (c.world.drain session.sink).1).noted
        (.drained ref (c.world.drain session.sink).2))
  | closed {ref : SessionRef} {session : Session} (found : c.world.session? ref = some session)
      (unclosed : session.isClosed = false) :
      Move c ((c.moved (c.world.retire ref session)).noted (.closed ref))

/-- One state comes from another by moves and emissions. -/
inductive Passage : Course → Course → Prop where
  | rest (c : Course) : Passage c c
  | move {a b c : Course} : Passage a b → Move b c → Passage a c
  /-- An emission selects its targets at the middle state and records at the last. -/
  | emit {a b c : Course} (router : RouterId) (event : Event) :
      Passage a b → Passage b c → Passage a (c.emit b router event)

namespace Passage

theorem trans {a b c : Course} (first : Passage a b) (second : Passage b c) : Passage a c := by
  induction second with
  | rest => exact first
  | move _ step ih => exact (ih first).move step
  | emit router event _ inner ih _ => exact (ih first).emit router event inner

theorem single {a b : Course} (step : Move a b) : Passage a b := (rest a).move step

theorem ready (c : Course) (router : RouterId) (event : Event) :
    Passage c (c.emit c router event) := (rest c).emit router event (rest c)

end Passage

/-- One state comes from another straight: every emission records at the state at which it selects
its targets. Between the two so many nanoseconds pass, and the subscriber stays. -/
inductive Straight : Nat → Course → Course → Prop where
  | rest (c : Course) : Straight 0 c c
  | pass {nanos : Nat} {a b : Course} (more : Nat) :
      Straight nanos a b → Straight (nanos + more) a (b.moved (b.world.advance more))
  | move {nanos : Nat} {a b c : Course} :
      Straight nanos a b → Move b c → World.AtOnce b.world c.world → Straight nanos a c
  | emit {nanos : Nat} {a b : Course} (router : RouterId) (event : Event) :
      Straight nanos a b → Straight nanos a (b.emit b router event)

namespace Straight

theorem passage {nanos : Nat} {a b : Course} (straight : Straight nanos a b) : Passage a b := by
  induction straight with
  | rest c => exact .rest c
  | pass more _ ih => exact ih.move (.idle rfl rfl rfl)
  | move _ step _ ih => exact ih.move step
  | emit router event _ ih => exact ih.emit router event (.rest _)

theorem single {a b : Course} (step : Move a b) (atOnce : World.AtOnce a.world b.world) :
    Straight 0 a b := (rest a).move step atOnce

theorem ready (c : Course) (router : RouterId) (event : Event) :
    Straight 0 c (c.emit c router event) := (rest c).emit router event

theorem pace {nanos : Nat} {a b : Course} (straight : Straight nanos a b) :
    World.AtOnce (a.world.advance nanos) b.world := by
  induction straight with
  | rest c => exact ⟨rfl, rfl, rfl⟩
  | @pass nanos a b more _ ih =>
    have elapsed : b.world.elapsed + more = a.world.elapsed + (nanos + more) := by
      rw [ih.elapsed]
      exact Nat.add_assoc _ _ _
    exact ⟨ih.origin, elapsed, ih.subscriber⟩
  | move _ _ atOnce ih => exact ih.trans atOnce
  | emit router event _ ih => exact ih.trans (World.atOnce_recordAll _ _ event)

end Straight

/-! ### Reports -/

/-- Report to the current subscriber. -/
def Course.report (c : Course) (event : Facade.TraceEvent) : Course :=
  c.emit c c.world.subscriber event.captured

theorem reported_trace (c : Course) (event : Facade.TraceEvent) :
    (c.moved (c.world.trace event)).reported event = c.report event := by
  have traced := World.trace_eq c.world event
  have same := (World.atOnce_trace c.world event).subscriber
  simp only [Course.reported, Course.report, Course.notedReady, Course.emit, Course.moved,
    Course.noted, same]
  rw [traced]
  rfl

theorem Straight.report {nanos : Nat} {a b : Course} (straight : Straight nanos a b)
    (event : Facade.TraceEvent) : Straight nanos a (b.report event) := straight.emit _ _

/-! ### Openings -/

/-- A session that is asked for: what it is to capture and how much of it a report shows, unless the
settings are refused. -/
structure Opening where
  id : SessionId
  router : RouterId
  settings : Except Fault (PatternSet × Level × Nat)

def Action.opening? : Action → Option Opening
  | .openSession id router patterns least =>
    some ⟨id, router, (PatternSet.parse patterns).map fun parsed =>
      (parsed, least, Report.usualLimit)⟩
  | .openWithSettings id router settings =>
    some ⟨id, router, settings.validate.map fun valid =>
      (valid.1, valid.2, settings.renderLimit)⟩
  | _ => none

namespace Course

/-- The session that an opening makes. -/
def fresh (c : Course) (opening : Opening) (there : Router) (patterns : PatternSet) (least : Level)
    (renderLimit : Nat) : Session :=
  { c.world.armed opening.id opening.router patterns least renderLimit with
    phase := .capturing ⟨there.nextNumber⟩ }

/-- Go on with one more session. -/
def enlisted (c : Course) (there : Router) (wall : Instant) (session : Session) : Course :=
  (c.moved (c.world.enlist there wall session)).noted (.opened ⟨c.world.sessions.length⟩)

/-- Go on after an opening. -/
def openAs (c : Course) (opening : Opening) : Course :=
  match c.world.router? opening.router with
  | none => c
  | some there =>
    match opening.settings with
    | .error fault => c.report (Session.opening.failed (.configuration fault) 0 [])
    | .ok (patterns, least, renderLimit) =>
      match c.world.timeOfDay .session with
      | .error _ => c
      | .ok wall =>
        let session := c.fresh opening there patterns least renderLimit
        (c.enlisted there wall session).report session.openingReport

end Course

theorem opened_openChecked {c : Course} {opening : Opening} {there : Router}
    (found : c.world.router? opening.router = some there) {patterns : PatternSet} {least : Level}
    {renderLimit : Nat} (settings : opening.settings = .ok (patterns, least, renderLimit)) :
    c.opened (c.world.openChecked opening.id opening.router patterns least renderLimit) =
      c.openAs opening := by
  unfold World.openChecked Course.openAs
  simp only [found, settings]
  cases timed : c.world.timeOfDay .session with
  | error fault =>
    rw [World.arm_of_untimed timed]
    rfl
  | ok wall =>
    -- Nobody sees the session while it is armed: it is enlisted as a capturing one at once.
    let session := c.fresh opening there patterns least renderLimit
    let w := c.world.enlist there wall session
    have started := World.startCapturing_armed wall
      (c.world.armed opening.id opening.router patterns least renderLimit) found
    have listed : w.session? ⟨c.world.sessions.length⟩ = some session := by
      rw [World.session?_enlist, if_pos rfl]
    -- The report does not touch the session, so that the log can be kept from the world after it.
    have kept := (World.steady_trace w session.openingReport).session? ⟨c.world.sessions.length⟩
    rw [listed] at kept
    rw [World.arm_of_timed timed]
    dsimp only at started ⊢
    rw [started]
    refine Eq.trans ?_ (reported_trace (c.enlisted there wall session) session.openingReport)
    show c.opened (w.trace session.openingReport, .ok ⟨c.world.sessions.length⟩) = _
    rw [Course.opened, kept]
    rfl

theorem opened_refuseOpening (c : Course) (fault : Fault) :
    c.opened (c.world.refuseOpening fault) =
      c.report (Session.opening.failed (.configuration fault) 0 []) :=
  reported_trace c (Session.opening.failed (.configuration fault) 0 [])

theorem openOn_eq (c : Course) (opening : Opening)
    {begin : World → World × Except World.OpeningFault SessionRef}
    (same : begin c.world = match opening.settings with
      | .error fault => c.world.refuseOpening fault
      | .ok (patterns, least, renderLimit) =>
        c.world.openChecked opening.id opening.router patterns least renderLimit) :
    c.openOn opening.router begin = c.openAs opening := by
  unfold Course.openOn
  cases found : c.world.router? opening.router with
  | none => simp only [Course.openAs, found, Option.elim_none]
  | some there =>
    rw [Option.elim_some, same]
    cases settings : opening.settings with
    | error fault =>
      simp only [Course.openAs, found, settings]
      exact opened_refuseOpening c fault
    | ok asked => exact opened_openChecked found settings

/-- Both ways to open a session do the same, once it is clear what is asked for. -/
theorem run_opening {action : Action} {opening : Opening} (asked : action.opening? = some opening)
    (c : Course) : action.run c = c.openAs opening := by
  cases action with
  | openSession id router patterns least =>
    obtain rfl := Option.some.inj asked
    simp only [Action.run]
    refine openOn_eq c ⟨id, router, _⟩ ?_
    unfold World.openSession
    cases PatternSet.parse patterns <;> rfl
  | openWithSettings id router settings =>
    obtain rfl := Option.some.inj asked
    simp only [Action.run]
    refine openOn_eq c ⟨id, router, _⟩ ?_
    unfold World.openWithSettings
    cases settings.validate <;> rfl
  | _ => contradiction

theorem openAs_of_timed {c : Course} {opening : Opening} {there : Router}
    (found : c.world.router? opening.router = some there) {patterns : PatternSet} {least : Level}
    {renderLimit : Nat} (settings : opening.settings = .ok (patterns, least, renderLimit))
    {wall : Instant} (timed : c.world.timeOfDay .session = .ok wall) :
    c.openAs opening =
      let session := c.fresh opening there patterns least renderLimit
      (c.enlisted there wall session).report session.openingReport := by
  simp only [Course.openAs, found, settings, timed]

theorem session?_openAs {c : Course} {opening : Opening} {there : Router}
    (found : c.world.router? opening.router = some there) {patterns : PatternSet} {least : Level}
    {renderLimit : Nat} (settings : opening.settings = .ok (patterns, least, renderLimit))
    {wall : Instant} (timed : c.world.timeOfDay .session = .ok wall) (ref : SessionRef) :
    (c.openAs opening).world.session? ref =
      if ref = ⟨c.world.sessions.length⟩ then
        some (c.fresh opening there patterns least renderLimit)
      else c.world.session? ref := by
  rw [openAs_of_timed found settings timed]
  exact ((World.steady_recordAll _ _ _).session? ref).trans (World.session?_enlist _ _ _ _ ref)

/-- An opening makes a session if the router is there, the settings are not refused and the time of
day is of use; otherwise all sessions stay as they are. -/
theorem openAs_cases (c : Course) (opening : Opening) :
    (c.openAs opening).world.sessions = c.world.sessions ∨
      ∃ there patterns least renderLimit wall,
        c.world.router? opening.router = some there ∧
          opening.settings = .ok (patterns, least, renderLimit) ∧
            c.world.timeOfDay .session = .ok wall := by
  unfold Course.openAs
  split
  · exact .inl rfl
  · next there found =>
    split
    · exact .inl (World.steady_recordAll _ _ _).sessions
    · next patterns least renderLimit settings =>
      split
      · exact .inl rfl
      · next wall timed =>
        exact .inr ⟨there, patterns, least, renderLimit, wall, found, settings, timed⟩

theorem openAs_straight (c : Course) (opening : Opening) : Straight 0 c (c.openAs opening) := by
  unfold Course.openAs
  split
  · exact .rest c
  · next there found =>
    split
    · exact .ready c _ _
    · next patterns least renderLimit settings =>
      split
      · exact .rest c
      · next wall timed =>
        have step : Move c (c.enlisted there wall (c.fresh opening there patterns least renderLimit)) :=
          .opened wall found rfl rfl
        exact (Straight.single step ⟨rfl, rfl, rfl⟩).report _

theorem opening_straight {action : Action} {opening : Opening}
    (asked : action.opening? = some opening) (c : Course) : Straight 0 c (action.run c) := by
  rw [run_opening asked]
  exact openAs_straight c opening

/-! ### Waits, drains and closings -/

/-- Without a session there is nothing to wait for. -/
theorem poll_of_missing {w : World} {ref : SessionRef} (missing : w.session? ref = none)
    (filter : Filter) (policy : WaitPolicy) (began : Nat) :
    w.poll ref filter policy began = .over := by
  simp [World.poll, World.events, missing, Snapshot.empty]

/-- Waiting alone lets time pass, unless there is no session to wait for. If nothing was found it
ends with a report. -/
theorem waitRounds_alone (ref : SessionRef) (filter : Filter) (policy : WaitPolicy) (began : Nat)
    (rounds : Nat) (w : World) :
    ∃ nanos, (w.session? ref = none → nanos = 0) ∧
      let later := w.advance nanos
      let (last, waited) := World.waitRounds ref filter policy began rounds w ([] : List (Due Unit))
      (last = later ∧ ∃ record, waited.result = .ok record) ∨
        ∃ failure, waited.result = .error failure ∧ waited.elapsed = later.elapsed - began ∧
          last = later.trace
            (Session.waiting.failed failure (wholeMillis (later.elapsed - began))
              ((w.session? ref).toList.map Session.idField)) := by
  have same (v : World) (event : Facade.TraceEvent) := (World.atOnce_trace v event).elapsed
  -- The reading at which the wait ends is that of the last round, wherever the first began.
  induction rounds generalizing w with
  | zero => exact ⟨0, fun _ => rfl, .inr ⟨_, rfl, by simp only [same]; rfl, rfl⟩⟩
  | succ rounds ih =>
    unfold World.waitRounds
    cases polled : w.poll ref filter policy began with
    | found record => exact ⟨0, fun _ => rfl, .inl ⟨rfl, record, rfl⟩⟩
    | remaining nanos =>
      let sleep := policy.sleepFor nanos
      obtain ⟨more, _, ended⟩ := ih (w.advanceTo (w.elapsed + sleep))
      have slept : (w.advanceTo (w.elapsed + sleep)).advance more = w.advance (sleep + more) := by
        simp only [World.advanceTo, World.advance, Nat.max_eq_right (Nat.le_add_right _ _),
          Nat.add_assoc]
      rw [slept] at ended
      refine ⟨sleep + more, fun missing => ?_, ended⟩
      rw [poll_of_missing missing] at polled
      contradiction
    | _ => exact ⟨0, fun _ => rfl, .inr ⟨_, rfl, by simp only [same]; rfl, rfl⟩⟩

/-- A wait alone lets time pass, and then reports its failure unless it has found a record. -/
theorem waitFor_cases (c : Course) (ref : SessionRef) (filter : Filter) (policy : WaitPolicy) :
    ∃ nanos, (c.world.session? ref = none → nanos = 0) ∧
      let slept := c.moved (c.world.advance nanos)
      (c.waitFor ref filter policy = slept ∨
        ∃ failure millis extra, c.waitFor ref filter policy =
          slept.report (Session.waiting.failed failure millis extra)) := by
  obtain ⟨nanos, brief, ended⟩ := waitRounds_alone ref filter policy c.world.elapsed
    (World.roundsEnough policy) c.world
  refine ⟨nanos, brief, ?_⟩
  unfold Course.waitFor World.waitFor
  dsimp only at ended ⊢
  obtain ⟨last, record, found⟩ | ⟨failure, failed, took, last⟩ := ended
  · rw [found, last]
    exact .inl rfl
  · rw [failed, took, last]
    exact .inr ⟨_, _, _, reported_trace (c.moved (c.world.advance nanos)) _⟩

theorem waitFor_straight (c : Course) (ref : SessionRef) (filter : Filter) (policy : WaitPolicy) :
    ∃ nanos, (c.world.session? ref = none → nanos = 0) ∧
      Straight nanos c (c.waitFor ref filter policy) := by
  obtain ⟨nanos, brief, ended⟩ := waitFor_cases c ref filter policy
  let slept := c.moved (c.world.advance nanos)
  have passed : Straight nanos c slept := Nat.zero_add nanos ▸ (Straight.rest c).pass nanos
  refine ⟨nanos, brief, ?_⟩
  obtain found | ⟨_, _, _, failed⟩ := ended
  · rw [found]
    exact passed
  · rw [failed]
    exact passed.report _

theorem drain_straight (c : Course) (ref : SessionRef) : Straight 0 c (c.drain ref) := by
  unfold Course.drain World.drainSession
  cases found : c.world.session? ref with
  | none => exact .rest c
  | some session => exact .single (.drained found) (World.atOnce_drain _ _)

/-- The first closing retires a session and reports it; a later one does nothing. -/
theorem close_cases (c : Course) (ref : SessionRef) :
    c.close ref = c ∨
      ∃ session captured, c.world.session? ref = some session ∧ session.isClosed = false ∧
        let ended := (c.moved (c.world.retire ref session)).noted (.closed ref)
        c.close ref = ended.report (session.closingReport c.world.elapsed captured) := by
  unfold Course.close
  cases found : c.world.session? ref with
  | none =>
    rw [World.close, found]
    exact .inl rfl
  | some session =>
    cases closed : session.isClosed with
    | true =>
      rw [World.close_of_closed found closed]
      simp only [closed, if_true]
      exact .inl rfl
    | false =>
      rw [World.close_of_unclosed found closed]
      simp only [closed, Bool.false_eq_true, if_false]
      let ended := (c.moved (c.world.retire ref session)).noted (.closed ref)
      exact .inr ⟨session, _, rfl, closed, reported_trace ended _⟩

theorem close_straight (c : Course) (ref : SessionRef) : Straight 0 c (c.close ref) := by
  obtain same | ⟨session, _, found, unclosed, ended⟩ := close_cases c ref
  · rw [same]
    exact .rest c
  · rw [ended]
    have retired := Straight.single (Move.closed found unclosed) (World.atOnce_retire _ _ _)
    exact retired.report _

theorem Course.world_close (c : Course) (ref : SessionRef) :
    (c.close ref).world = (c.world.close ref).1 := by
  unfold Course.close
  cases c.world.session? ref with
  | none => rfl
  | some session =>
    by_cases closed : session.isClosed = true
    · simp only [closed, if_true]
      rfl
    · simp only [closed, Bool.false_eq_true, if_false]
      rfl

theorem run_drop (ref : SessionRef) (c : Course) : (Action.drop ref).run c = c.close ref := by
  simp only [Action.run, World.release, ← c.world_close ref]

/-! ### Actions -/

theorem attach_straight (c : Course) (router : RouterId) (patterns : PatternSet) (least : Level)
    (place : Nat) : Straight 0 c (c.attach router patterns least place) := by
  unfold Course.attach
  split
  · exact .rest c
  · next sink held =>
    unfold World.attach
    cases found : c.world.router? router with
    | none => exact .rest c
    | some there =>
      exact .single (.attach found (List.mem_of_getElem? held) patterns least) ⟨rfl, rfl, rfl⟩

theorem detach_straight (c : Course) (place : Nat) : Straight 0 c (c.detach place) := by
  unfold Course.detach
  split
  · exact .rest c
  · next handle held => exact .single (.detach held) (World.atOnce_detach _ _ _)

/-- A change that replaces no sink but the one it is meant for is a move of the client's own. -/
theorem onSink_straight {change : World → SinkId → World}
    (kept : ∀ w id, change w id = w ∨ ∃ sink, change w id = w.setSink id sink) (c : Course)
    (place : Nat) : Straight 0 c (c.onSink place change) := by
  unfold Course.onSink
  cases held : c.sinks[place]? with
  | none => exact .rest c
  | some id =>
    obtain same | ⟨sink, changed⟩ := kept c.world id
    · rw [Option.elim_some, same]
      exact .rest c
    · rw [Option.elim_some, changed]
      exact .single (.touch (List.mem_of_getElem? held) sink) ⟨rfl, rfl, rfl⟩

theorem record_changes (event : Event) (w : World) (id : SinkId) :
    (w.record id event).1 = w ∨ ∃ sink, (w.record id event).1 = w.setSink id sink := by
  unfold World.record
  split
  · exact .inr ⟨_, rfl⟩
  · exact .inl rfl

theorem drain_changes (w : World) (id : SinkId) :
    (w.drain id).1 = w ∨ ∃ sink, (w.drain id).1 = w.setSink id sink := by
  unfold World.drain
  split
  · exact .inr ⟨_, rfl⟩
  · exact .inl rfl

theorem freeze_changes (w : World) (id : SinkId) :
    (w.freeze id).1 = w ∨ ∃ sink, (w.freeze id).1 = w.setSink id sink := by
  unfold World.freeze
  split
  · exact .inr ⟨_, rfl⟩
  · exact .inl rfl

theorem newSink_straight (c : Course) : Straight 0 c (Action.newSink.run c) := by
  simp only [Action.run]
  obtain ⟨fault, made⟩ | ⟨wall, made⟩ := c.world.newSink_cases
  · rw [made]
    exact .rest c
  · rw [made]
    exact .single (.newSink wall) ⟨rfl, rfl, rfl⟩

theorem run_dispatch (router : RouterId) (event : Event) (c : Course) :
    (Action.dispatch router event).run c = c.emit c router event := by
  simp only [Action.run, World.dispatch_eq]
  rfl

/-- An event that is built in between is emitted after all that was nested, to what was selected
before. -/
theorem run_dispatchWith (router : RouterId) (event : Event) (nested : List Action) (c : Course) :
    (Action.dispatchWith router event nested).run c =
      if c.world.select router event.logger event.level = [] then c.emit c router event
      else (runAll nested c).emit c router event := by
  simp only [Action.run]
  split
  · next unselected =>
    rw [World.dispatchWith_of_unselected unselected, Course.emit, unselected]
    rfl
  · next selected =>
    rw [World.dispatchWith_of_selected selected]
    rfl

theorem run_log (router : RouterId) (entry : Facade.LogEntry) (nested : List Action)
    (c : Course) :
    (Action.log router entry nested).run c =
      if c.world.select router entry.logger entry.level = [] then c.emit c router entry.captured
      else (runAll nested c).emit c router entry.captured := by
  obtain ⟨logger, level⟩ := entry.captured_logger
  simp only [Action.run, World.log, Course.emit, logger, level]
  split
  · next unselected =>
    rw [World.dispatchWith_of_unselected unselected, unselected]
    rfl
  · next selected =>
    rw [World.dispatchWith_of_selected selected]
    rfl

theorem run_within (router : RouterId) (nested : List Action) (c : Course) :
    (Action.within router nested).run c =
      let inner := runAll nested (c.moved { c.world with subscriber := router })
      inner.moved { inner.world with subscriber := c.world.subscriber } := by
  simp only [Action.run]
  rfl

/-- An event that is ready when it is emitted: nothing is nested in it. Nobody else becomes the
subscriber either. -/
def Action.isReady : Action → Bool
  | .dispatchWith _ _ nested | .log _ _ nested => nested.isEmpty
  | .within _ _ => false
  | _ => true

/-- The time that an action takes by itself. A wait may take longer. -/
def Action.span : Action → Nat
  | .advance nanos => nanos
  | _ => 0

/-- Whether an action waits for a session that exists. -/
def Action.waits (w : World) : Action → Bool
  | .waitFor session _ _ => (w.session? session).isSome
  | _ => false

theorem run_dispatchWith_ready (router : RouterId) (event : Event) (c : Course) :
    (Action.dispatchWith router event []).run c = c.emit c router event := by
  rw [run_dispatchWith]
  exact ite_self _

theorem run_log_ready (router : RouterId) (entry : Facade.LogEntry) (c : Course) :
    (Action.log router entry []).run c = c.emit c router entry.captured := by
  rw [run_log]
  exact ite_self _

theorem run_trace (event : Facade.TraceEvent) (c : Course) :
    (Action.trace event).run c = c.report event := by
  simp only [Action.run]
  exact reported_trace c event

/-- An action in which nothing is nested goes straight, and takes no longer than it must unless it
waits. -/
theorem Action.run_straight (c : Course) {action : Action} (ready : action.isReady = true) :
    ∃ nanos, (action.waits c.world = false → nanos = action.span) ∧
      Straight nanos c (action.run c) := by
  cases action with
  | advance nanos =>
    have passed := (Straight.rest c).pass nanos
    rw [Nat.zero_add] at passed
    exact ⟨nanos, fun _ => rfl, passed⟩
  | waitFor session filter policy =>
    obtain ⟨nanos, brief, straight⟩ := waitFor_straight c session filter policy
    refine ⟨nanos, fun alone => brief ?_, straight⟩
    simpa [Action.waits] using alone
  | within router nested => contradiction
  | newRouter ownEvents => exact ⟨0, fun _ => rfl, .single (.newRouter ownEvents) ⟨rfl, rfl, rfl⟩⟩
  | newSink => exact ⟨0, fun _ => rfl, newSink_straight c⟩
  | attach router patterns least sink => exact ⟨0, fun _ => rfl, attach_straight c _ _ _ sink⟩
  | detach handle => exact ⟨0, fun _ => rfl, detach_straight c handle⟩
  | dispatch router event => exact ⟨0, fun _ => rfl, run_dispatch router event c ▸ .ready c _ _⟩
  | dispatchWith router event nested =>
    obtain rfl := List.isEmpty_iff.mp ready
    exact ⟨0, fun _ => rfl, run_dispatchWith_ready router event c ▸ .ready c _ _⟩
  | trace event => exact ⟨0, fun _ => rfl, run_trace event c ▸ .ready c _ _⟩
  | log router entry nested =>
    obtain rfl := List.isEmpty_iff.mp ready
    exact ⟨0, fun _ => rfl, run_log_ready router entry c ▸ .ready c _ _⟩
  | record sink event => exact ⟨0, fun _ => rfl, onSink_straight (record_changes event) c sink⟩
  | drainSink sink => exact ⟨0, fun _ => rfl, onSink_straight drain_changes c sink⟩
  | freeze sink => exact ⟨0, fun _ => rfl, onSink_straight freeze_changes c sink⟩
  | openSession | openWithSettings =>
    exact ⟨0, fun _ => rfl, opening_straight rfl c⟩
  | drain session => exact ⟨0, fun _ => rfl, drain_straight c session⟩
  | close session => exact ⟨0, fun _ => rfl, close_straight c session⟩
  | drop session => exact ⟨0, fun _ => rfl, run_drop session c ▸ close_straight c session⟩

theorem Action.ready_passage (c : Course) {action : Action} (ready : action.isReady = true) :
    Passage c (action.run c) :=
  have ⟨_, _, straight⟩ := action.run_straight c ready
  straight.passage

mutual

theorem Action.run_passage (c : Course) : (action : Action) → Passage c (action.run c)
  | .dispatchWith router event nested => by
    rw [run_dispatchWith]
    split
    · exact .ready c router event
    · exact .emit router event (.rest c) (runAll_passage c nested)
  | .log router entry nested => by
    rw [run_log]
    split
    · exact .ready c router entry.captured
    · exact .emit router entry.captured (.rest c) (runAll_passage c nested)
  | .within router nested => by
    rw [run_within]
    -- Entering and leaving are moves of their own around what is nested.
    have entered : Move c (c.moved { c.world with subscriber := router }) := .idle rfl rfl rfl
    exact ((Passage.single entered).trans (runAll_passage _ nested)).move (.idle rfl rfl rfl)
  | .advance _ | .newRouter _ | .newSink | .attach _ _ _ _ | .detach _ | .dispatch _ _
  | .trace _ | .record _ _ | .drainSink _ | .freeze _ | .openSession _ _ _ _
  | .openWithSettings _ _ _ | .drain _ | .waitFor _ _ _ | .close _ | .drop _ =>
    Action.ready_passage c rfl

theorem runAll_passage (c : Course) : (actions : List Action) → Passage c (runAll actions c)
  | [] => .rest c
  | action :: rest => (action.run_passage c).trans (runAll_passage (action.run c) rest)

end

theorem runAll_append (actions more : List Action) (c : Course) :
    runAll (actions ++ more) c = runAll more (runAll actions c) := by
  induction actions generalizing c with
  | nil => rfl
  | cons action rest ih => exact ih (action.run c)

end Client

end EventCapture
