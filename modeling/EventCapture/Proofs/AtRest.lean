import EventCapture.Proofs.Deeds

/-! Closed sessions: nothing that happens later is seen in them.

The sink of a closed session is frozen, and a frozen sink ignores every call that would change it.
An emission that had selected the sink before the closing may still record in it, however late, but
to no effect. So all that a session can be asked is answered for good when it is closed.
-/

set_option autoImplicit false

namespace EventCapture

/-- How a wait ends that can hope for nothing more: with the first match, or with a failure that
took no time and shows all there is. -/
def View.conclusion (view : View) (filter : Filter) : Except Failure Record :=
  match view.firstMatching? filter with
  | some record => .ok record
  | none => .error (.timeout filter.text 0 view.report)

/-- A session is closed and shows one view for good: it hands nothing out, closing it once more does
nothing, and every wait for it ends at once, before anybody else has acted. -/
structure AtRest (w : World) (ref : SessionRef) (view : View) : Prop where
  phase : (w.session? ref).map Session.phase = some .closed
  final : view.snapshot.final = true
  events : w.events ref = view.snapshot
  viewed : w.sessionView ref = view
  drained : w.drainSession ref = (w, [])
  closed : w.close ref = (w, view.snapshot)
  waited : ∀ {α : Type} (filter : Filter) (policy : WaitPolicy) (others : List (Due α)),
    (w.waitFor ref filter policy others).2 = ⟨view.conclusion filter, 0, 0, [], others⟩

namespace World

/-- A session is closed, and its sink is frozen. -/
structure Resting (w : World) (ref : SessionRef) (session : Session) (sink : Sink) : Prop where
  found : w.session? ref = some session
  closed : session.isClosed = true
  held : w.sink? session.sink = some sink
  frozen : sink.sealed = true

namespace Resting

variable {w : World} {ref : SessionRef} {session : Session} {sink : Sink}

theorem phase (resting : Resting w ref session sink) : session.phase = .closed :=
  beq_iff_eq.mp resting.closed

theorem snapshot (resting : Resting w ref session sink) :
    w.snapshot session.sink = ⟨sink.records, true⟩ := by
  rw [World.snapshot, resting.held, Option.elim_some, Sink.snapshot, resting.frozen]

theorem events (resting : Resting w ref session sink) : w.events ref = ⟨sink.records, true⟩ := by
  rw [World.events, resting.found]
  exact resting.snapshot

theorem sessionView (resting : Resting w ref session sink) :
    w.sessionView ref = ⟨⟨sink.records, true⟩, session.renderLimit⟩ := by
  rw [World.sessionView, resting.events, resting.found]
  rfl

theorem drainSession (resting : Resting w ref session sink) : w.drainSession ref = (w, []) := by
  simp only [World.drainSession, resting.found, drain, resting.held,
    Sink.drain_of_sealed resting.frozen, setSink_self resting.held]

/-- A wait looks once. Without a match it ends, since nothing more can come. -/
theorem waitFor (resting : Resting w ref session sink) {α : Type} (filter : Filter)
    (policy : WaitPolicy) (others : List (Due α)) :
    (w.waitFor ref filter policy others).2 =
      ⟨(w.sessionView ref).conclusion filter, 0, 0, [], others⟩ := by
  have looked : (w.sessionView ref).firstMatching? filter =
      (w.events ref).records.find? filter.passes := rfl
  unfold World.waitFor roundsEnough waitRounds poll View.conclusion
  rw [looked]
  cases (w.events ref).records.find? filter.passes with
  | some record => simp only [Nat.sub_self]
  | none =>
    have ended : (w.session? ref).all Session.isClosed = true := by
      rw [resting.found]
      exact resting.closed
    simp only [ended, Bool.true_or, if_true, waitExpired, (atOnce_trace _ _).elapsed,
      Nat.sub_self]
    rfl

theorem atRest (resting : Resting w ref session sink) :
    AtRest w ref ⟨⟨sink.records, true⟩, session.renderLimit⟩ where
  phase := by rw [resting.found, Option.map_some, resting.phase]
  final := rfl
  events := resting.events
  viewed := resting.sessionView
  drained := resting.drainSession
  closed := by rw [close_of_closed resting.found resting.closed, resting.snapshot]
  waited := fun filter policy others => by
    rw [resting.waitFor filter policy others, resting.sessionView]

end Resting

/-- A closing returns all that the session keeps, for good. -/
theorem snapshot_close {w : World} {ref : SessionRef} {session : Session} {sink : Sink}
    (found : w.session? ref = some session) (held : w.sink? session.sink = some sink)
    (frozen : sink.sealed = session.isClosed) : (w.close ref).2 = ⟨sink.records, true⟩ := by
  cases closed : session.isClosed with
  | true =>
    have resting : Resting w ref session sink := ⟨found, closed, held, frozen.trans closed⟩
    rw [close_of_closed found closed, resting.snapshot]
  | false =>
    have there : ((w.stopCapturing session).setSession ref
        { session with phase := .closed }).sink? session.sink = some sink :=
      (w.sink?_stopCapturing session session.sink).trans held
    rw [close_of_unclosed found closed, lastSnapshot, freeze, there]
    rfl

end World

namespace Client

/-- A closed session of a run rests. -/
theorem Lawful.resting {c : Course} (lawful : Lawful c) {ref : SessionRef} {session : Session}
    (found : c.world.session? ref = some session) (closed : session.isClosed = true) :
    ∃ sink, World.Resting c.world ref session sink := by
  obtain ⟨sink, held, frozen⟩ := lawful.held (World.mem_of_session? found)
  exact ⟨sink, found, closed, held, frozen.trans closed⟩

/-- What a closing returns is what the session shows from then on. -/
theorem Lawful.atRest_close {c : Course} (lawful : Lawful c) {ref : SessionRef} {session : Session}
    (found : c.world.session? ref = some session) :
    AtRest (c.world.close ref).1 ref ⟨(c.world.close ref).2, session.renderLimit⟩ := by
  obtain ⟨sink, held, frozen⟩ := lawful.held (World.mem_of_session? found)
  rw [World.snapshot_close found held frozen]
  cases closed : session.isClosed with
  | true =>
    have resting : World.Resting c.world ref session sink :=
      ⟨found, closed, held, frozen.trans closed⟩
    rw [World.close_of_closed found closed]
    exact resting.atRest
  | false =>
    -- The report comes after the closing, so that it finds a closed session.
    let retired := c.world.retire ref session
    let report := session.closingReport c.world.elapsed (c.world.lastSnapshot ref session).size
    have marked : retired.session? ref = some { session with phase := .closed } := by
      rw [World.session?_retire, if_pos rfl, found, Option.map_some]
    have kept : retired.sink? session.sink = some sink.freeze.1 := by
      rw [World.sink?_retire, if_pos rfl, held, Option.map_some]
    have steady := World.steady_trace retired report
    have still : (retired.trace report).sink? session.sink = some sink.freeze.1 := by
      rw [World.trace_eq]
      exact World.sink?_recordAll_of_sealed kept rfl _ _
    have resting : World.Resting (retired.trace report) ref { session with phase := .closed }
        sink.freeze.1 := ⟨(steady.session? ref).trans marked, rfl, still, rfl⟩
    rw [World.close_of_unclosed found closed]
    exact resting.atRest

/-- No move changes a closed session: it may be drained, but its sink hands nothing out. -/
theorem Move.resting {a b : Course} (step : Move a b) (lawful : Lawful a) {ref : SessionRef}
    {session : Session} {sink : Sink} (resting : World.Resting a.world ref session sink) :
    World.Resting b.world ref session sink := by
  obtain ⟨found, closed, held, frozen⟩ := resting
  cases step.upon lawful found with
  | apart kept unchanged _ => exact ⟨kept, closed, unchanged.trans held, frozen⟩
  | drained =>
    have steady := World.steady_drain a.world session.sink
    refine ⟨(steady.session? ref).trans found, closed, ?_, frozen⟩
    refine (World.sink?_drain _ _ _).trans ?_
    rw [if_pos rfl, held, Option.map_some, Sink.drain_of_sealed frozen]
  | closed unclosed => exact absurd (unclosed.symm.trans closed) Bool.false_ne_true

/-- A closed session still rests at every later state. -/
theorem Later.resting {a b : Course} (later : Later a b) (lawful : Lawful a) {ref : SessionRef}
    {session : Session} {sink : Sink} (resting : World.Resting a.world ref session sink) :
    World.Resting b.world ref session sink := by
  induction later with
  | rest => exact resting
  | move first step ih => exact step.resting (first.lawful lawful) ih
  | @emit b since router event _ ih =>
    let targets := since.world.select router event.logger event.level
    have steady := World.steady_recordAll b.world targets event
    have held := World.sink?_recordAll_of_sealed ih.held ih.frozen targets event
    exact ⟨(steady.session? ref).trans ih.found, ih.closed, held, ih.frozen⟩

/-- What a session shows when it rests is what it shows at every later state. -/
theorem Later.atRest {a b : Course} (later : Later a b) (lawful : Lawful a) {ref : SessionRef}
    {view : View} (rests : AtRest a.world ref view) : AtRest b.world ref view := by
  obtain ⟨session, found, phase⟩ := Option.map_eq_some_iff.mp rests.phase
  obtain ⟨sink, resting⟩ := lawful.resting found (beq_iff_eq.mpr phase)
  have shown : view = ⟨⟨sink.records, true⟩, session.renderLimit⟩ :=
    rests.viewed.symm.trans resting.sessionView
  rw [shown]
  exact (later.resting lawful resting).atRest

/-- In every run, wherever a session is closed, inside builders too, it rests from then on with what
the closing returned, and a session that rests at one state rests so at all later ones. -/
theorem trail_at_rest (origin : Instant) (actions : List Action) :
    (∀ c ∈ trail actions (Course.start origin), ∀ ref session,
      c.world.session? ref = some session →
        AtRest ((Action.close ref).run c).world ref
          ⟨(c.world.close ref).2, session.renderLimit⟩) ∧
      (trail actions (Course.start origin)).Pairwise fun before after =>
        ∀ ref view, AtRest before.world ref view → AtRest after.world ref view := by
  have passed := trail_passed (Course.start origin) actions
  have lawful {c : Course} (member : c ∈ trail actions (Course.start origin)) : Lawful c :=
    (passed.reached c member).lawful (lawful_start origin)
  constructor
  · intro c member ref session found
    have closing : ((Action.close ref).run c).world = (c.world.close ref).1 := c.world_close ref
    rw [closing]
    exact (lawful member).atRest_close found
  · refine passed.ordered.imp_of_mem fun member _ later ref view rests => ?_
    exact later.atRest (lawful member) rests

end Client

end EventCapture
