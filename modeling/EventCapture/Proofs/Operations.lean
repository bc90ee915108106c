import EventCapture.Sink.Plain
import EventCapture.World.Wait
import Mathlib.Logic.Function.Iterate

/-! What the operations of a world change, and what they leave alone.

An emission leaves routers and sessions as they are and freezes nothing; this is what `Steady` says.
In one sink it shows as many times as the sink was selected. Opening a session enlists it, closing
it for the first time retires it, and both are followed by a report to the current subscriber.
-/

set_option autoImplicit false

namespace EventCapture

theorem Sink.sealed_record (sink : Sink) (now : Nat) (event : Event) :
    (sink.record now event).1.sealed = sink.sealed := by
  unfold record
  split
  · rfl
  · exact sealed_push _ _

theorem Sink.sealed_drain (sink : Sink) : sink.drain.1.sealed = sink.sealed := by
  unfold drain
  split <;> rfl

/-- A frozen sink refuses every event, and is not changed by it. -/
theorem Sink.record_of_sealed {sink : Sink} (frozen : sink.sealed = true) (now : Nat)
    (event : Event) : sink.record now event = (sink, false) := by
  simp only [record, frozen, if_true]

theorem Sink.drain_of_sealed {sink : Sink} (frozen : sink.sealed = true) :
    sink.drain = (sink, []) := by
  simp only [drain, frozen, if_true]

/-- What an open sink is after it took an event a number of times at one moment. The records are
numbered on from where the sink was. -/
def PlainSink.taking (sink : PlainSink) (now : Nat) (event : Event) (times : Nat) : PlainSink :=
  { sink with
    records := sink.records ++
      (List.range times).map fun k => sink.clock.stamp now (sink.nextSeq + k) event
    nextSeq := sink.nextSeq + times }

theorem Sink.plain_iterate_record {sink : Sink} (unsealed : sink.sealed = false) (now : Nat)
    (event : Event) (times : Nat) :
    ((fun sink : Sink => (sink.record now event).1)^[times] sink).plain =
      sink.plain.taking now event times := by
  induction times with
  | zero => simp [PlainSink.taking]
  | succ times ih =>
    have once (sink : Sink) : (sink.record now event).1.plain = (sink.plain.record now event).1 :=
      congrArg Prod.fst (plain_record sink now event)
    rw [Function.iterate_succ_apply', once, ih]
    simp [PlainSink.record, PlainSink.taking, plain, unsealed, List.range_succ, Nat.add_assoc]

theorem Facade.LogEntry.captured_logger (entry : LogEntry) :
    entry.captured.logger = entry.logger ∧ entry.captured.level = entry.level := by
  unfold captured
  -- Putting in one more field touches neither, whatever was put in before.
  generalize entry.origin = fields
  suffices ∀ event : Event,
      (fields.foldl (fun event field => event.withField field.1 field.2) event).logger =
        event.logger ∧
      (fields.foldl (fun event field => event.withField field.1 field.2) event).level =
        event.level from this _
  induction fields with
  | nil => exact fun event => ⟨rfl, rfl⟩
  | cons field rest ih => exact fun event => ih (event.withField field.1 field.2)

namespace Session

/-- The report that a session was opened. -/
def openingReport (session : Session) : Facade.TraceEvent :=
  opening.started
    [⟨Schema.sessionId, .shown session.id.text⟩, ⟨Schema.patterns, .shown session.patterns.text⟩,
      ⟨Schema.minimumLevel, .shown session.least.name⟩]

/-- The report that a session was closed at a reading of the clock, with so many records. -/
def closingReport (session : Session) (now captured : Nat) : Facade.TraceEvent :=
  closing.finished (wholeMillis (now - session.openedAt))
    [session.idField, ⟨Schema.captured, .integer captured⟩]

end Session

/-- The place that is set holds the new value, if it held one before, and the others what they held. -/
theorem getElem?_set_eq {α : Type} (items : List α) (place other : Nat) (value : α) :
    (items.set place value)[other]? =
      if other = place then items[place]?.map fun _ => value else items[other]? := by
  by_cases same : other = place
  · subst same
    by_cases bound : other < items.length <;> simp [bound]
  · rw [if_neg same, List.getElem?_set_ne (Ne.symm same)]

namespace World

/-- One world comes from another without a change to its routers and its sessions, and without a
sink being made or frozen. -/
structure Steady (before after : World) : Prop where
  routers : after.routers = before.routers
  sessions : after.sessions = before.sessions
  seals : ∀ id, (after.sink? id).map Sink.sealed = (before.sink? id).map Sink.sealed

theorem Steady.refl (w : World) : Steady w w := ⟨rfl, rfl, fun _ => rfl⟩

theorem Steady.trans {first middle last : World} (a : Steady first middle)
    (b : Steady middle last) : Steady first last :=
  ⟨b.routers.trans a.routers, b.sessions.trans a.sessions,
    fun id => (b.seals id).trans (a.seals id)⟩

/-- One world comes from another at once: no time passes, and the subscriber stays. -/
structure AtOnce (before after : World) : Prop where
  origin : after.origin = before.origin
  elapsed : after.elapsed = before.elapsed
  subscriber : after.subscriber = before.subscriber

theorem AtOnce.refl (w : World) : AtOnce w w := ⟨rfl, rfl, rfl⟩

theorem AtOnce.trans {first middle last : World} (a : AtOnce first middle)
    (b : AtOnce middle last) : AtOnce first last :=
  ⟨b.origin.trans a.origin, b.elapsed.trans a.elapsed, b.subscriber.trans a.subscriber⟩

/-! ### Sinks -/

theorem sink?_setSink (w : World) (id other : SinkId) (sink : Sink) :
    (w.setSink id sink).sink? other =
      if other = id then (w.sink? id).map fun _ => sink else w.sink? other := by
  obtain ⟨place⟩ := id
  obtain ⟨another⟩ := other
  simp only [SinkId.mk.injEq]
  exact getElem?_set_eq w.sinks place another sink

theorem sink?_setSink_self {w : World} {id : SinkId} {sink : Sink} (found : w.sink? id = some sink)
    (changed : Sink) : (w.setSink id changed).sink? id = some changed := by
  rw [sink?_setSink, if_pos rfl, found]
  rfl

theorem setSink_self {w : World} {id : SinkId} {sink : Sink} (found : w.sink? id = some sink) :
    w.setSink id sink = w := by
  obtain ⟨bound, there⟩ := List.getElem?_eq_some_iff.mp found
  unfold setSink
  rw [← there, List.set_getElem_self]

theorem sink?_setSink_of_ne (w : World) {id other : SinkId} (sink : Sink) (apart : other ≠ id) :
    (w.setSink id sink).sink? other = w.sink? other := by
  rw [sink?_setSink, if_neg apart]

theorem steady_setSink {w : World} {id : SinkId} {sink changed : Sink}
    (found : w.sink? id = some sink) (same : changed.sealed = sink.sealed) :
    Steady w (w.setSink id changed) := by
  refine ⟨rfl, rfl, fun other => ?_⟩
  rw [sink?_setSink]
  split
  · next equal => simp [equal, found, same]
  · rfl

theorem sink?_record (w : World) (id other : SinkId) (event : Event) :
    (w.record id event).1.sink? other =
      if other = id then (w.sink? other).map fun sink => (sink.record w.elapsed event).1
      else w.sink? other := by
  unfold record
  cases found : w.sink? id with
  | none =>
    by_cases same : other = id
    · simp [same, found]
    · simp [same]
  | some sink =>
    simp only [sink?_setSink]
    by_cases same : other = id
    · simp [same, found]
    · simp [same]

theorem atOnce_record (w : World) (id : SinkId) (event : Event) :
    AtOnce w (w.record id event).1 := by
  unfold record
  split <;> exact ⟨rfl, rfl, rfl⟩

theorem steady_record (w : World) (id : SinkId) (event : Event) :
    Steady w (w.record id event).1 := by
  unfold record
  split
  · next sink found => exact steady_setSink found (sink.sealed_record w.elapsed event)
  · exact Steady.refl w

theorem atOnce_recordAll (w : World) (ids : List SinkId) (event : Event) :
    AtOnce w (w.recordAll ids event).1 := by
  induction ids generalizing w with
  | nil => exact AtOnce.refl w
  | cons id rest ih => exact (atOnce_record w id event).trans (ih (w.record id event).1)

theorem steady_recordAll (w : World) (ids : List SinkId) (event : Event) :
    Steady w (w.recordAll ids event).1 := by
  induction ids generalizing w with
  | nil => exact Steady.refl w
  | cons id rest ih => exact (steady_record w id event).trans (ih (w.record id event).1)

/-- A sink records the event once for every time it was selected. -/
theorem sink?_recordAll (w : World) (ids : List SinkId) (event : Event) (other : SinkId) :
    (w.recordAll ids event).1.sink? other =
      (w.sink? other).map (fun sink => (sink.record w.elapsed event).1)^[ids.count other] := by
  induction ids generalizing w with
  | nil => simp [recordAll]
  | cons id rest ih =>
    have tail := ih (w.record id event).1
    -- Recording takes no time, so that every round makes the same change.
    rw [(atOnce_record w id event).elapsed, sink?_record] at tail
    refine tail.trans ?_
    by_cases same : other = id
    · subst same
      rw [if_pos rfl, Option.map_map, List.count_cons_self, Function.iterate_succ]
    · rw [if_neg same, List.count_cons_of_ne (Ne.symm same)]

/-- A frozen sink stays as it is, however often it was selected. -/
theorem sink?_recordAll_of_sealed {w : World} {id : SinkId} {sink : Sink}
    (held : w.sink? id = some sink) (frozen : sink.sealed = true) (ids : List SinkId)
    (event : Event) : (w.recordAll ids event).1.sink? id = some sink := by
  have still : (sink.record w.elapsed event).1 = sink := by rw [Sink.record_of_sealed frozen]
  rw [sink?_recordAll, held, Option.map_some, Function.iterate_fixed still]

/-- An open sink takes the event once for every time it is given. -/
theorem taken_recordAll {w : World} {id : SinkId} {sink : Sink} (found : w.sink? id = some sink)
    (unsealed : sink.sealed = false) (ids : List SinkId) (event : Event) :
    ∃ later, (w.recordAll ids event).1.sink? id = some later ∧
      later.plain = sink.plain.taking w.elapsed event (ids.count id) := by
  rw [sink?_recordAll, found]
  exact ⟨_, rfl, sink.plain_iterate_record unsealed w.elapsed event (ids.count id)⟩

/-! ### Emissions -/

theorem dispatchWith_of_unselected {α : Type} {w : World} {id : RouterId} {logger : String}
    {level : Level} (none_selected : w.select id logger level = [])
    (build : World → World × Event × α) :
    w.dispatchWith id logger level build = (w, 0, none) := by
  unfold dispatchWith
  rw [none_selected]

/-- Once some route admits the event, it is built and then recorded in all that was selected
before. -/
theorem dispatchWith_of_selected {α : Type} {w : World} {id : RouterId} {logger : String}
    {level : Level} (selected : w.select id logger level ≠ [])
    (build : World → World × Event × α) :
    w.dispatchWith id logger level build =
      (((build w).1.recordAll (w.select id logger level) (build w).2.1).1,
        ((build w).1.recordAll (w.select id logger level) (build w).2.1).2,
        some (build w).2.2) := by
  unfold dispatchWith
  split
  · next none_selected => exact absurd none_selected selected
  · rfl

theorem dispatch_eq (w : World) (id : RouterId) (event : Event) :
    w.dispatch id event = w.recordAll (w.select id event.logger event.level) event := by
  unfold dispatch
  by_cases selected : w.select id event.logger event.level = []
  · rw [dispatchWith_of_unselected selected, selected]
    rfl
  · rw [dispatchWith_of_selected selected]

theorem trace_eq (w : World) (event : Facade.TraceEvent) :
    w.trace event =
      (w.recordAll (w.select w.subscriber event.logger event.level) event.captured).1 := by
  unfold trace
  by_cases selected : w.select w.subscriber event.logger event.level = []
  · rw [dispatchWith_of_unselected selected, selected]
    rfl
  · rw [dispatchWith_of_selected selected]

theorem steady_trace (w : World) (event : Facade.TraceEvent) : Steady w (w.trace event) := by
  rw [trace_eq]
  exact steady_recordAll w _ event.captured

theorem atOnce_trace (w : World) (event : Facade.TraceEvent) : AtOnce w (w.trace event) := by
  rw [trace_eq]
  exact atOnce_recordAll w _ event.captured

/-! ### Routers and sessions -/

theorem Steady.router? {before after : World} (steady : Steady before after) (id : RouterId) :
    after.router? id = before.router? id := by
  unfold World.router?
  rw [steady.routers]

theorem Steady.session? {before after : World} (steady : Steady before after) (ref : SessionRef) :
    after.session? ref = before.session? ref := by
  unfold World.session?
  rw [steady.sessions]

theorem router?_setRouter (w : World) (id other : RouterId) (router : Router) :
    (w.setRouter id router).router? other =
      if other = id then (w.router? id).map fun _ => router else w.router? other := by
  obtain ⟨place⟩ := id
  obtain ⟨another⟩ := other
  simp only [RouterId.mk.injEq]
  exact getElem?_set_eq w.routers place another router

theorem setRouter_self {w : World} {id : RouterId} {router : Router}
    (found : w.router? id = some router) : w.setRouter id router = w := by
  obtain ⟨bound, there⟩ := List.getElem?_eq_some_iff.mp found
  unfold setRouter
  rw [← there, List.set_getElem_self]

theorem session?_setSession (w : World) (ref other : SessionRef) (session : Session) :
    (w.setSession ref session).session? other =
      if other = ref then (w.session? ref).map fun _ => session else w.session? other := by
  obtain ⟨place⟩ := ref
  obtain ⟨another⟩ := other
  simp only [SessionRef.mk.injEq]
  exact getElem?_set_eq w.sessions place another session

theorem mem_of_session? {w : World} {ref : SessionRef} {session : Session}
    (found : w.session? ref = some session) : session ∈ w.sessions :=
  List.mem_of_getElem? found

theorem ne_next_of_session? {w : World} {ref : SessionRef} {session : Session}
    (found : w.session? ref = some session) : ref ≠ ⟨w.sessions.length⟩ := by
  rintro rfl
  exact Nat.lt_irrefl _ (List.getElem?_eq_some_iff.mp found).1

/-! ### Openings and closings -/

/-- The world with one more session, attached to its router, whose sink starts at a time of day. -/
def enlist (w : World) (router : Router) (wall : Instant) (session : Session) : World :=
  { w.setRouter session.router (router.attach session.patterns session.least session.sink).1 with
    sinks := w.sinks ++ [Sink.start w.elapsed wall]
    sessions := w.sessions ++ [session] }

theorem session?_enlist (w : World) (router : Router) (wall : Instant) (session : Session)
    (other : SessionRef) :
    (w.enlist router wall session).session? other =
      if other = ⟨w.sessions.length⟩ then some session else w.session? other := by
  obtain ⟨place⟩ := other
  simp only [session?, enlist, List.getElem?_append, SessionRef.mk.injEq]
  by_cases old : place < w.sessions.length
  · simp [old, Nat.ne_of_lt old]
  · by_cases last : place = w.sessions.length
    · simp [last]
    · simp only [old, last, if_false, List.getElem?_eq_none (Nat.le_of_not_lt old)]
      have beyond : 1 ≤ place - w.sessions.length := by omega
      exact List.getElem?_eq_none beyond

/-- The session that is made for a router, not attached yet. -/
def armed (w : World) (id : SessionId) (router : RouterId) (patterns : PatternSet) (least : Level)
    (renderLimit : Nat) : Session :=
  ⟨id, router, ⟨w.sinks.length⟩, patterns, least, renderLimit, w.elapsed, .armed⟩

/-- The world in which a session is detached, marked as closed, and frozen. -/
def retire (w : World) (ref : SessionRef) (session : Session) : World :=
  (((w.stopCapturing session).setSession ref { session with phase := .closed }).freeze
    session.sink).1

/-- What a session that is retired keeps for good. -/
def lastSnapshot (w : World) (ref : SessionRef) (session : Session) : Snapshot :=
  (((w.stopCapturing session).setSession ref { session with phase := .closed }).freeze
    session.sink).2

theorem atOnce_detach (w : World) (id : RouterId) (route : RouteId) :
    AtOnce w (w.detach id route).1 := by
  unfold detach
  split <;> exact ⟨rfl, rfl, rfl⟩

theorem atOnce_drain (w : World) (id : SinkId) : AtOnce w (w.drain id).1 := by
  unfold drain
  split <;> exact ⟨rfl, rfl, rfl⟩

theorem atOnce_freeze (w : World) (id : SinkId) : AtOnce w (w.freeze id).1 := by
  unfold freeze
  split <;> exact ⟨rfl, rfl, rfl⟩

theorem atOnce_retire (w : World) (ref : SessionRef) (session : Session) :
    AtOnce w (w.retire ref session) := by
  have stopped : AtOnce w (w.stopCapturing session) := by
    unfold stopCapturing
    split
    · exact atOnce_detach w _ _
    · exact .refl w
  have marked : AtOnce (w.stopCapturing session)
      ((w.stopCapturing session).setSession ref { session with phase := .closed }) :=
    ⟨rfl, rfl, rfl⟩
  exact (stopped.trans marked).trans (atOnce_freeze _ session.sink)

/-- The first closing retires the session and reports what it kept. -/
theorem close_of_unclosed {w : World} {ref : SessionRef} {session : Session}
    (found : w.session? ref = some session) (unclosed : session.isClosed = false) :
    w.close ref =
      ((w.retire ref session).trace
        (session.closingReport w.elapsed (w.lastSnapshot ref session).size),
        w.lastSnapshot ref session) := by
  have same := (atOnce_retire w ref session).elapsed
  unfold close
  rw [found]
  simp only [unclosed, Bool.false_eq_true, if_false]
  -- The report reads the clock after the closing, which itself takes no time.
  rw [← same]
  rfl

theorem close_of_closed {w : World} {ref : SessionRef} {session : Session}
    (found : w.session? ref = some session) (closed : session.isClosed = true) :
    w.close ref = (w, w.snapshot session.sink) := by
  unfold close
  rw [found]
  simp only [closed, if_true]

/-- A time of day that is of use to a session is of use to a sink. -/
theorem timeOfDay_sink {w : World} {wall : Instant} (timed : w.timeOfDay .session = .ok wall) :
    w.timeOfDay .sink = .ok wall := by
  unfold timeOfDay Instant.usable at *
  split at timed
  · contradiction
  · split at timed
    · contradiction
    · next early => rw [if_neg early]; exact timed

theorem newSink_cases (w : World) :
    (∃ fault, w.newSink = .error fault) ∨
      ∃ wall, w.newSink =
        .ok ({ w with sinks := w.sinks ++ [Sink.start w.elapsed wall] }, ⟨w.sinks.length⟩) := by
  unfold newSink
  cases w.timeOfDay .sink with
  | error fault => exact .inl ⟨fault, rfl⟩
  | ok wall => exact .inr ⟨wall, rfl⟩

/-- A session is made just when the time of day is of use. -/
theorem arm_of_timed {w : World} {wall : Instant} (timed : w.timeOfDay .session = .ok wall)
    (id : SessionId) (router : RouterId) (patterns : PatternSet) (least : Level)
    (renderLimit : Nat) :
    w.arm id router patterns least renderLimit =
      .ok ({ w with
        sinks := w.sinks ++ [Sink.start w.elapsed wall]
        sessions := w.sessions ++ [w.armed id router patterns least renderLimit] },
        ⟨w.sessions.length⟩) := by
  unfold arm newSink
  rw [timed, timeOfDay_sink timed]
  rfl

theorem arm_of_untimed {w : World} {fault : ClockFault}
    (untimed : w.timeOfDay .session = .error fault) (id : SessionId) (router : RouterId)
    (patterns : PatternSet) (least : Level) (renderLimit : Nat) :
    w.arm id router patterns least renderLimit = .error fault := by
  unfold arm
  rw [untimed]
  rfl

theorem startCapturing_armed {w : World} {router : Router} (wall : Instant) (armed : Session)
    (found : w.router? armed.router = some router) :
    startCapturing
      { w with
        sinks := w.sinks ++ [Sink.start w.elapsed wall]
        sessions := w.sessions ++ [armed] } ⟨w.sessions.length⟩ =
      w.enlist router wall { armed with phase := .capturing ⟨router.nextNumber⟩ } := by
  unfold startCapturing
  have last : (w.sessions ++ [armed])[w.sessions.length]? = some armed := by simp
  have there : w.routers[armed.router.index]? = some router := found
  simp only [session?, last, attach, router?, there]
  simp [setSession, setRouter, enlist, Router.attach]

end World

end EventCapture
