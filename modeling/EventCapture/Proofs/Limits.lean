import EventCapture.Proofs.Tables
import EventCapture.Scenario.Run

/-! Operations that ask neither how much the reports of a session show nor what is kept under names.

Nearly all operations on a world are of this kind: whatever a session shows, they do the same and
give the same result. What is made of them one after another is so too, and so is what goes by
something that was read before, if that could be read whatever a session shows.
-/

set_option autoImplicit false

namespace EventCapture

/-- The session with another render limit. -/
def Session.showing (session : Session) (limit : Nat) : Session :=
  { session with renderLimit := limit }

namespace World

def limit? (w : World) (ref : SessionRef) : Option Nat := (w.session? ref).map Session.renderLimit

/-- The world in which a session has another render limit, and in which names stand for other
things. -/
def showing (w : World) (ref : SessionRef) (limit : Nat) (scope : List (String × Object)) : World :=
  { w with
    sessions := w.sessions.modify ref.index (·.showing limit)
    scope := scope }

/-- What is read of a world is the same whatever a session shows in reports and whatever names stand
for. -/
def Indifferent {β : Type} (read : World → β) : Prop :=
  ∀ (w : World) (ref : SessionRef) (limit : Nat) (scope : List (String × Object)),
    read (w.showing ref limit scope) = read w

/-- An operation does the same whatever a session shows in reports and whatever names stand for, and
it leaves both alone. -/
structure Blind {α : Type} (op : World → World × α) : Prop where
  -- A session that is not there yet might be made by the operation, and then has its own limit.
  same : ∀ (w : World) (ref : SessionRef) (limit : Nat) (scope : List (String × Object)),
    (w.limit? ref).isSome →
      op (w.showing ref limit scope) = ((op w).1.showing ref limit scope, (op w).2)
  scope : ∀ w : World, (op w).1.scope = w.scope
  limits : ∀ (w : World) (ref : SessionRef) (limit : Nat),
    w.limit? ref = some limit → (op w).1.limit? ref = some limit

section

variable {α β : Type} {ref : SessionRef} {limit : Nat} {scope : List (String × Object)}

theorem session?_showing (w : World) (other : SessionRef) :
    (w.showing ref limit scope).session? other =
      (w.session? other).map fun session =>
        if other = ref then session.showing limit else session := by
  obtain ⟨place⟩ := ref
  obtain ⟨another⟩ := other
  simp only [session?, showing, List.getElem?_modify, SessionRef.mk.injEq, eq_comm]
  rfl

theorem limit?_of_sessions {w v : World} (same : v.sessions = w.sessions) (ref : SessionRef) :
    v.limit? ref = w.limit? ref := by
  unfold limit? session?
  rw [same]

/-- One blind operation after another is blind. -/
theorem Blind.andThen {op : World → World × α} {next : α → World → World × β} (first : Blind op)
    (later : ∀ result, Blind (next result)) : Blind fun w => next (op w).2 (op w).1 where
  same := fun w ref limit scope there => by
    have still : ((op w).1.limit? ref).isSome := by
      obtain ⟨was, limit⟩ := Option.isSome_iff_exists.mp there
      rw [first.limits w ref was limit, Option.isSome_some]
    rw [first.same w ref limit scope there]
    exact (later _).same _ ref limit scope still
  scope := fun w => ((later _).scope _).trans (first.scope w)
  limits := fun w ref limit there => (later _).limits _ ref limit (first.limits w ref limit there)

theorem Blind.still (result : α) : Blind fun w => (w, result) :=
  ⟨fun _ _ _ _ _ => rfl, fun _ => rfl, fun _ _ _ => id⟩

theorem Blind.map {op : World → World × α} (blind : Blind op) (f : α → β) :
    Blind fun w => ((op w).1, f (op w).2) where
  same := fun w ref limit scope there => by rw [blind.same w ref limit scope there]
  scope := blind.scope
  limits := blind.limits

/-- What is read first may tell anything but render limits and names. -/
theorem Blind.reading {op : β → World → World × α} {read : World → β}
    (indifferent : Indifferent read) (blind : ∀ value, Blind (op value)) :
    Blind fun w => op (read w) w where
  same := fun w ref limit scope there => by
    rw [indifferent]
    exact (blind (read w)).same w ref limit scope there
  scope := fun w => (blind (read w)).scope w
  limits := fun w => (blind (read w)).limits w

theorem Blind.congr {op other : World → World × α} (blind : Blind other)
    (same : ∀ w, op w = other w) : Blind op := by
  rwa [funext same]

/-- What touches neither names nor sessions keeps both. -/
theorem blind_of_kept {op : World → World × α}
    (same : ∀ (w : World) (ref : SessionRef) (limit : Nat) (scope : List (String × Object)),
      op (w.showing ref limit scope) = ((op w).1.showing ref limit scope, (op w).2))
    (names : ∀ w : World, (op w).1.scope = w.scope)
    (sessions : ∀ w : World, (op w).1.sessions = w.sessions) : Blind op where
  same := fun w ref limit scope _ => same w ref limit scope
  scope := names
  limits := fun w ref _ there => (limit?_of_sessions (sessions w) ref).trans there

/-! ### Sinks and routers -/

theorem blind_advance (nanos : Nat) : Blind fun w => (w.advance nanos, ()) :=
  blind_of_kept (fun _ _ _ _ => rfl) (fun _ => rfl) (fun _ => rfl)

theorem blind_advanceTo (reading : Nat) : Blind fun w => (w.advanceTo reading, ()) :=
  blind_of_kept (fun _ _ _ _ => rfl) (fun _ => rfl) (fun _ => rfl)

theorem blind_newRouter (ownEvents : Bool) : Blind (·.newRouter ownEvents) :=
  blind_of_kept (fun _ _ _ _ => rfl) (fun _ => rfl) (fun _ => rfl)

/-- What looks up a sink and puts another in its place is blind. -/
theorem blind_onSink (id : SinkId) (change : World → Sink → Sink × α) (missing : α)
    (indifferent : Indifferent change) :
    Blind fun w => (w.sink? id).elim (w, missing) fun sink =>
      (w.setSink id (change w sink).1, (change w sink).2) := by
  refine blind_of_kept (fun w ref limit scope => ?_) (fun w => ?_) (fun w => ?_)
  · have found : (w.showing ref limit scope).sink? id = w.sink? id := rfl
    rw [found, indifferent]
    cases w.sink? id <;> rfl
  · cases w.sink? id <;> rfl
  · cases w.sink? id <;> rfl

theorem blind_record (id : SinkId) (event : Event) : Blind (·.record id event) :=
  (blind_onSink id (fun w sink => sink.record w.elapsed event) false fun _ _ _ _ => rfl).congr
    fun w => by unfold record; cases w.sink? id <;> rfl

theorem blind_drain (id : SinkId) : Blind (·.drain id) :=
  (blind_onSink id (fun _ sink => sink.drain) [] fun _ _ _ _ => rfl).congr
    fun w => by unfold drain; cases w.sink? id <;> rfl

theorem blind_freeze (id : SinkId) : Blind (·.freeze id) :=
  (blind_onSink id (fun _ sink => sink.freeze) Snapshot.empty fun _ _ _ _ => rfl).congr
    fun w => by unfold freeze; cases w.sink? id <;> rfl

theorem blind_recordAll (ids : List SinkId) (event : Event) : Blind (·.recordAll ids event) := by
  induction ids with
  | nil => exact blind_of_kept (fun _ _ _ _ => rfl) (fun _ => rfl) (fun _ => rfl)
  | cons id rest ih =>
    exact (blind_record id event).andThen fun accepted => ih.map (· + accepted.toNat)

/-- What looks up a router and puts another in its place is blind. -/
theorem blind_onRouter (id : RouterId) (change : Router → Router × α) (missing : α) :
    Blind fun w => (w.router? id).elim (w, missing) fun router =>
      (w.setRouter id (change router).1, (change router).2) := by
  refine blind_of_kept (fun w ref limit scope => ?_) (fun w => ?_) (fun w => ?_)
  · have found : (w.showing ref limit scope).router? id = w.router? id := rfl
    rw [found]
    cases w.router? id <;> rfl
  · cases w.router? id <;> rfl
  · cases w.router? id <;> rfl

theorem blind_attach (id : RouterId) (patterns : PatternSet) (least : Level) (sink : SinkId) :
    Blind (·.attach id patterns least sink) :=
  (blind_onRouter id
      (fun router =>
        ((router.attach patterns least sink).1, some (router.attach patterns least sink).2))
      none).congr
    fun w => by unfold attach; cases w.router? id <;> rfl

theorem blind_detach (id : RouterId) (route : RouteId) : Blind (·.detach id route) :=
  (blind_onRouter id (·.detach route) false).congr
    fun w => by unfold detach; cases w.router? id <;> rfl

/-- An event goes to targets that are selected where it is emitted. -/
theorem blind_deliver {targets : World → List SinkId} (indifferent : Indifferent targets)
    (event : Event) : Blind fun w => w.recordAll (targets w) event :=
  .reading indifferent fun ids => blind_recordAll ids event

theorem blind_dispatch (id : RouterId) (event : Event) : Blind (·.dispatch id event) := by
  have targets : Indifferent fun w => w.select id event.logger event.level := fun _ _ _ _ => rfl
  exact (blind_deliver targets event).congr fun w => dispatch_eq w id event

theorem blind_trace (event : Facade.TraceEvent) : Blind fun w => (w.trace event, ()) := by
  have targets : Indifferent fun w => w.select w.subscriber event.logger event.level :=
    fun _ _ _ _ => rfl
  exact ((blind_deliver targets event.captured).map fun _ => ()).congr fun w => by rw [trace_eq]

theorem blind_newSink (wall : Instant) : Blind fun w =>
    ({ w with sinks := w.sinks ++ [Sink.start w.elapsed wall] }, SinkId.mk w.sinks.length) :=
  blind_of_kept (fun _ _ _ _ => rfl) (fun _ => rfl) (fun _ => rfl)

theorem newSink_eq (w : World) :
    w.newSink = (w.timeOfDay .sink).map fun wall =>
      ({ w with sinks := w.sinks ++ [Sink.start w.elapsed wall] }, SinkId.mk w.sinks.length) := by
  unfold newSink
  cases w.timeOfDay .sink <;> rfl

theorem blind_logReady (id : RouterId) (entry : Facade.LogEntry) :
    Blind fun w => ((w.log id entry fun w => (w, ())).1, ()) := by
  obtain ⟨logger, level⟩ := entry.captured_logger
  refine ((blind_dispatch id entry.captured).map fun _ => ()).congr fun w => ?_
  unfold log dispatch
  rw [logger, level]

theorem blind_subscriber (id : RouterId) : Blind fun w => ({ w with subscriber := id }, ()) :=
  blind_of_kept (fun _ _ _ _ => rfl) (fun _ => rfl) (fun _ => rfl)

/-! ### Sessions -/

/-- A session but for its render limit. -/
def faceless? (w : World) (ref : SessionRef) : Option Session :=
  (w.session? ref).map (·.showing 0)

theorem indifferent_faceless? (other : SessionRef) : Indifferent (·.faceless? other) := by
  intro w ref limit scope
  dsimp only [faceless?]
  rw [session?_showing, Option.map_map]
  refine congrArg (Option.map · _) (funext fun session => ?_)
  dsimp only [Function.comp]
  split <;> rfl

/-- The world in which a session is in a phase. -/
def marked (w : World) (ref : SessionRef) (phase : Phase) : World :=
  { w with sessions := w.sessions.modify ref.index ({ · with phase := phase }) }

theorem session?_marked (w : World) (ref other : SessionRef) (phase : Phase) :
    (w.marked ref phase).session? other =
      (w.session? other).map fun session =>
        if other = ref then { session with phase := phase } else session := by
  obtain ⟨place⟩ := ref
  obtain ⟨another⟩ := other
  simp only [session?, marked, List.getElem?_modify, SessionRef.mk.injEq, eq_comm]
  rfl

theorem blind_marked (ref : SessionRef) (phase : Phase) :
    Blind fun w => (w.marked ref phase, ()) where
  same := fun w other limit scope _ => by
    have commutes : (w.sessions.modify other.index (·.showing limit)).modify ref.index
          ({ · with phase := phase }) =
        (w.sessions.modify ref.index ({ · with phase := phase })).modify other.index
          (·.showing limit) := by
      refine List.ext_getElem? fun place => ?_
      simp only [List.getElem?_modify, Option.map_eq_map, Option.map_map]
      refine congrArg (Option.map · _) (funext fun session => ?_)
      dsimp only [Function.comp]
      split <;> split <;> rfl
    simp only [marked, showing, commutes]
  scope := fun _ => rfl
  limits := fun w other limit there => by
    rw [← there]
    unfold limit?
    rw [session?_marked, Option.map_map]
    refine congrArg (Option.map · _) (funext fun session => ?_)
    dsimp only [Function.comp]
    split <;> rfl

theorem setSession_eq_marked {w : World} {ref : SessionRef} {session : Session}
    (found : w.session? ref = some session) (phase : Phase) :
    w.setSession ref { session with phase := phase } = w.marked ref phase := by
  have there : w.sessions[ref.index]? = some session := found
  have sessions : w.sessions.set ref.index { session with phase := phase } =
      w.sessions.modify ref.index ({ · with phase := phase }) := by
    refine List.ext_getElem? fun place => ?_
    rw [getElem?_set_eq, List.getElem?_modify]
    by_cases same : place = ref.index
    · rw [if_pos same, same, there]
      simp
    · rw [if_neg same]
      simp [Ne.symm same]
  unfold setSession marked
  rw [sessions]

/-- What is done with a session, if it is there, may depend on anything but its render limit. -/
theorem blind_onSession (ref : SessionRef) {op : Session → World → World × α} (missing : α)
    (blind : ∀ session, Blind (op session)) :
    Blind fun w => (w.faceless? ref).elim (w, missing) (op · w) := by
  have each (found : Option Session) :
      Blind fun w : World => found.elim (w, missing) (op · w) :=
    match found with
    | none => .still missing
    | some session => blind session
  exact .reading (indifferent_faceless? ref) each

/-- Attach what a session asks for, and let it capture then. -/
def begun (ref : SessionRef) (session : Session) (w : World) : World :=
  let (w, route) := w.attach session.router session.patterns session.least session.sink
  route.elim w fun route => w.marked ref (.capturing route)

theorem blind_begun (ref : SessionRef) (session : Session) :
    Blind fun w => (w.begun ref session, ()) := by
  have marks (route : Option RouteId) :
      Blind fun w : World => (route.elim w fun route => w.marked ref (.capturing route), ()) :=
    match route with
    | none => .still ()
    | some route => blind_marked ref (.capturing route)
  exact (blind_attach session.router session.patterns session.least session.sink).andThen marks

theorem startCapturing_eq (w : World) (ref : SessionRef) :
    w.startCapturing ref = (w.faceless? ref).elim w fun session => begun ref session w := by
  unfold startCapturing faceless?
  cases found : w.session? ref with
  | none => rfl
  | some session =>
    rw [Option.map_some, Option.elim_some]
    unfold begun attach
    simp only [Session.showing]
    cases w.router? session.router with
    | none => rfl
    | some router =>
      let attached := router.attach session.patterns session.least session.sink
      have still : (w.setRouter session.router attached.1).session? ref = some session := found
      exact setSession_eq_marked still (.capturing attached.2)

theorem blind_startCapturing (ref : SessionRef) : Blind fun w => (w.startCapturing ref, ()) :=
  (blind_onSession ref () (blind_begun ref)).congr fun w => by
    rw [startCapturing_eq]
    cases w.faceless? ref <;> rfl

theorem blind_stopCapturing (session : Session) :
    Blind fun w => (w.stopCapturing session, ()) := by
  unfold stopCapturing
  cases session.phase with
  | capturing route => exact (blind_detach session.router route).map fun _ => ()
  | armed => exact .still ()
  | closed => exact .still ()

/-- Close a session that is not closed. -/
def sealing (ref : SessionRef) (session : Session) (w : World) : World × Snapshot :=
  let (w, frozen) := ((w.stopCapturing session).marked ref .closed).freeze session.sink
  (w.trace (session.closingReport w.elapsed frozen.size), frozen)

theorem blind_sealing (ref : SessionRef) (session : Session) : Blind (sealing ref session) := by
  have clock : Indifferent elapsed := fun _ _ _ _ => rfl
  have tells (frozen : Snapshot) : Blind fun w =>
      (w.trace (session.closingReport w.elapsed frozen.size), frozen) :=
    .reading clock fun now =>
      (blind_trace (session.closingReport now frozen.size)).map fun _ => frozen
  have freezes : Blind fun w =>
      ((w.stopCapturing session).marked ref .closed).freeze session.sink :=
    ((blind_stopCapturing session).andThen fun _ => blind_marked ref .closed).andThen
      fun _ => blind_freeze session.sink
  exact freezes.andThen tells

theorem close_eq (w : World) (ref : SessionRef) :
    w.close ref = (w.faceless? ref).elim (w, Snapshot.empty) fun session =>
      if session.isClosed then (w, w.snapshot session.sink) else sealing ref session w := by
  unfold close faceless?
  cases found : w.session? ref with
  | none => rfl
  | some session =>
    rw [Option.map_some, Option.elim_some]
    have still : (w.stopCapturing session).session? ref = some session := by
      unfold session?
      rw [sessions_stopCapturing]
      exact found
    simp only [sealing, setSession_eq_marked still]
    rfl

theorem blind_close (ref : SessionRef) : Blind (·.close ref) := by
  have closes (session : Session) : Blind fun w =>
      if session.isClosed then (w, w.snapshot session.sink) else sealing ref session w := by
    have kept : Indifferent (·.snapshot session.sink) := fun _ _ _ _ => rfl
    split
    · exact .reading kept .still
    · exact blind_sealing ref session
  exact (blind_onSession ref Snapshot.empty closes).congr fun w => close_eq w ref

theorem blind_drainSession (ref : SessionRef) : Blind (·.drainSession ref) :=
  (blind_onSession ref [] fun session => blind_drain session.sink).congr fun w => by
    unfold drainSession faceless?
    cases w.session? ref <;> rfl

/-! ### Openings -/

/-- The world with one more session and its sink, not attached yet. -/
def joined (id : SessionId) (router : RouterId) (patterns : PatternSet) (least : Level)
    (renderLimit : Nat) (wall : Instant) (w : World) : World × SessionRef :=
  ({ w with
    sinks := w.sinks ++ [Sink.start w.elapsed wall]
    sessions := w.sessions ++ [w.armed id router patterns least renderLimit] },
    ⟨w.sessions.length⟩)

theorem blind_joined (id : SessionId) (router : RouterId) (patterns : PatternSet) (least : Level)
    (renderLimit : Nat) (wall : Instant) :
    Blind (joined id router patterns least renderLimit wall) where
  same := fun w ref limit scope there => by
    have inside : ref.index < w.sessions.length := by
      obtain ⟨_, shown⟩ := Option.isSome_iff_exists.mp there
      obtain ⟨_, found, _⟩ := Option.map_eq_some_iff.mp shown
      exact (List.getElem?_eq_some_iff.mp found).1
    have appended (last : Session) :
        (w.sessions ++ [last]).modify ref.index (·.showing limit) =
          w.sessions.modify ref.index (·.showing limit) ++ [last] := by
      refine List.ext_getElem? fun place => ?_
      simp only [List.getElem?_append, List.getElem?_modify, List.length_modify]
      by_cases old : place < w.sessions.length
      · rw [if_pos old, if_pos old]
      · have apart : ref.index ≠ place := by omega
        simp [old, apart]
    simp only [joined, showing, appended, List.length_modify]
    rfl
  scope := fun _ => rfl
  limits := fun w ref limit there => by
    obtain ⟨session, found, shown⟩ := Option.map_eq_some_iff.mp there
    have inside := (List.getElem?_eq_some_iff.mp found).1
    have still : (joined id router patterns least renderLimit wall w).1.session? ref =
        some session := (List.getElem?_append_left inside).trans found
    rw [limit?, still, Option.map_some, shown]

/-- Let a new session capture, and tell of it. -/
def announced (id : SessionId) (patterns : PatternSet) (least : Level) (ref : SessionRef)
    (w : World) : World × Except OpeningFault SessionRef :=
  ((w.startCapturing ref).trace (Session.opening.started
    [⟨Schema.sessionId, .shown id.text⟩, ⟨Schema.patterns, .shown patterns.text⟩,
      ⟨Schema.minimumLevel, .shown least.name⟩]), .ok ref)

theorem blind_announced (id : SessionId) (patterns : PatternSet) (least : Level)
    (ref : SessionRef) : Blind (announced id patterns least ref) := by
  have tells := (blind_startCapturing ref).andThen fun _ => blind_trace (Session.opening.started
    [⟨Schema.sessionId, .shown id.text⟩, ⟨Schema.patterns, .shown patterns.text⟩,
      ⟨Schema.minimumLevel, .shown least.name⟩])
  exact tells.map fun _ => (.ok ref : Except OpeningFault SessionRef)

theorem openChecked_eq (w : World) (id : SessionId) (router : RouterId) (patterns : PatternSet)
    (least : Level) (renderLimit : Nat) :
    w.openChecked id router patterns least renderLimit =
      match w.timeOfDay .session with
      | .error fault => (w, .error (.untimed fault))
      | .ok wall =>
        let (w, ref) := joined id router patterns least renderLimit wall w
        announced id patterns least ref w := by
  unfold openChecked
  cases timed : w.timeOfDay .session with
  | error fault => rw [arm_of_untimed timed]
  | ok wall =>
    rw [arm_of_timed timed]
    rfl

theorem blind_openChecked (id : SessionId) (router : RouterId) (patterns : PatternSet)
    (least : Level) (renderLimit : Nat) :
    Blind (·.openChecked id router patterns least renderLimit) := by
  have clock : Indifferent (·.timeOfDay .session) := fun _ _ _ _ => rfl
  have dated (reading : Except ClockFault Instant) : Blind fun w : World =>
      match reading with
      | .error fault => (w, .error (.untimed fault))
      | .ok wall =>
        let (w, ref) := joined id router patterns least renderLimit wall w
        announced id patterns least ref w :=
    match reading with
    | .error fault => .still (.error (.untimed fault) : Except OpeningFault SessionRef)
    | .ok wall =>
      (blind_joined id router patterns least renderLimit wall).andThen
        (blind_announced id patterns least)
  exact (Blind.reading clock dated).congr fun w =>
    openChecked_eq w id router patterns least renderLimit

theorem blind_refuseOpening (fault : Fault) : Blind (·.refuseOpening fault) := by
  have tells := blind_trace (Session.opening.failed (.configuration fault) 0 [])
  exact tells.map fun _ =>
    (.error (.refused (.configuration fault)) : Except OpeningFault SessionRef)

theorem blind_openSession (id : SessionId) (router : RouterId) (patterns : List String)
    (least : Level) : Blind (·.openSession id router patterns least) := by
  unfold openSession
  cases PatternSet.parse patterns with
  | error fault => exact blind_refuseOpening fault
  | ok patterns => exact blind_openChecked id router patterns least Report.usualLimit

theorem blind_openWithSettings (id : SessionId) (router : RouterId) (settings : Settings) :
    Blind (·.openWithSettings id router settings) := by
  unfold openWithSettings
  cases settings.validate with
  | error fault => exact blind_refuseOpening fault
  | ok asked => exact blind_openChecked id router asked.1 asked.2 settings.renderLimit

end

end World

end EventCapture
