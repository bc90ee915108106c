import EventCapture.Proofs.Passage
import EventCapture.Proofs.Tables

/-! The states that a run passes through, in their order.

A later state knows all that an earlier one knew: its log goes on where the earlier one ended, the
client still holds its sinks, and a session is still there, with its settings, and closed if it was
closed before. This order holds between any two states of a run, those inside a builder included,
because the later comes after the earlier by moves and emissions.
-/

set_option autoImplicit false

namespace EventCapture

namespace Client

/-- One state is a later one of the same run. -/
structure Leads (before after : Course) : Prop where
  sinks : before.sinks <+: after.sinks
  log : before.log <+: after.log
  routers : ∀ id own, before.world.ownEvents? id = some own → after.world.ownEvents? id = some own
  sessions : ∀ ref session, before.world.session? ref = some session →
    ∃ phase, after.world.session? ref = some { session with phase := phase } ∧
      (session.phase = .closed → phase = .closed)

theorem Leads.refl (c : Course) : Leads c c :=
  ⟨List.prefix_refl _, List.prefix_refl _, fun _ _ => id, fun _ session found =>
    ⟨session.phase, found, id⟩⟩

theorem Leads.trans {a b c : Course} (first : Leads a b) (second : Leads b c) : Leads a c := by
  refine ⟨first.sinks.trans second.sinks, first.log.trans second.log, ?_, ?_⟩
  · exact fun id own known => second.routers id own (first.routers id own known)
  · intro ref session found
    obtain ⟨phase, kept, closed⟩ := first.sessions ref session found
    obtain ⟨last, kept, stays⟩ := second.sessions ref _ kept
    exact ⟨last, kept, fun before => stays (closed before)⟩

/-- Sessions that are the same are kept. -/
theorem leads_of_sessions {a b : Course} (sinks : a.sinks <+: b.sinks) (log : a.log <+: b.log)
    (routers : ∀ id own, a.world.ownEvents? id = some own → b.world.ownEvents? id = some own)
    (same : b.world.sessions = a.world.sessions) : Leads a b := by
  refine ⟨sinks, log, routers, fun ref session found => ⟨session.phase, ?_, id⟩⟩
  unfold World.session? at found ⊢
  rw [same]
  exact found

theorem Move.leads {a b : Course} (step : Move a b) : Leads a b := by
  have held := List.prefix_refl a.sinks
  have logged := List.prefix_refl a.log
  have known {d : Course} (same : ∀ id, d.world.ownEvents? id = a.world.ownEvents? id)
      (id : RouterId) (own : Bool) (before : a.world.ownEvents? id = some own) :
      d.world.ownEvents? id = some own := (same id).trans before
  cases step with
  | idle sinks routers sessions =>
    exact leads_of_sessions held logged (known (World.ownEvents?_of_routers routers)) sessions
  | newRouter ownEvents =>
    exact leads_of_sessions held logged (fun _ _ => World.ownEvents?_newRouter ownEvents) rfl
  | newSink wall => exact leads_of_sessions (List.prefix_append _ _) logged (fun _ _ => id) rfl
  | touch own sink => exact leads_of_sessions held logged (fun _ _ => id) rfl
  | attach found own patterns least =>
    have same := World.ownEvents?_attached found patterns least
    exact leads_of_sessions held logged (known (same _)) rfl
  | @detach place handle found =>
    have same := World.ownEvents?_detach a.world handle.router
    exact leads_of_sessions held logged (known (same · _)) (World.sessions_detach _ _ _)
  | drained found =>
    have steady := World.steady_drain a.world
    exact leads_of_sessions held (List.prefix_append _ _)
      (known (World.ownEvents?_of_routers (steady _).routers)) (steady _).sessions
  | @opened router session wall found sink phase =>
    have same := World.ownEvents?_attached found session.patterns session.least session.sink
    refine ⟨held, List.prefix_append _ _, known same, ?_⟩
    intro ref previous there
    refine ⟨previous.phase, ?_, id⟩
    rw [Course.noted, Course.moved, World.session?_enlist, if_neg (World.ne_next_of_session? there)]
    exact there
  | @closed ref session found unclosed =>
    -- The one session that changes keeps its settings and is closed from now on.
    have same := World.ownEvents?_retire a.world ref session
    refine ⟨held, List.prefix_append _ _, known same, fun other previous there => ?_⟩
    have retired := World.session?_retire a.world ref other session
    rw [Course.noted, Course.moved, retired]
    by_cases here : other = ref
    · obtain rfl : session = previous := Option.some.inj (found.symm.trans (here ▸ there))
      rw [if_pos here, found]
      exact ⟨.closed, rfl, fun _ => rfl⟩
    · rw [if_neg here]
      exact ⟨previous.phase, there, id⟩

theorem leads_emit (c since : Course) (router : RouterId) (event : Event) :
    Leads c (c.emit since router event) := by
  have steady := World.steady_recordAll c.world
    (since.world.select router event.logger event.level) event
  refine leads_of_sessions (List.prefix_refl _) (List.prefix_append _ _) ?_ steady.sessions
  exact fun id own known => (World.ownEvents?_of_routers steady.routers id).trans known

/-- One state comes after another, though perhaps not by a passage: an emission that records in
between may have selected its targets before the first. -/
inductive Later : Course → Course → Prop where
  | rest (c : Course) : Later c c
  | move {a b c : Course} : Later a b → Move b c → Later a c
  | emit {a b : Course} (since : Course) (router : RouterId) (event : Event) :
      Later a b → Later a (b.emit since router event)

theorem Later.trans {a b c : Course} (first : Later a b) (second : Later b c) : Later a c := by
  induction second with
  | rest => exact first
  | move _ step ih => exact ih.move step
  | emit since router event _ ih => exact ih.emit since router event

theorem Passage.later {a b : Course} (passage : Passage a b) : Later a b := by
  induction passage with
  | rest c => exact .rest c
  | move _ step ih => exact ih.move step
  | emit router event _ _ first second => exact (first.trans second).emit _ router event

theorem Later.leads {a b : Course} (later : Later a b) : Leads a b := by
  induction later with
  | rest => exact .refl a
  | move _ step ih => exact ih.trans step.leads
  | emit since router event _ ih => exact ih.trans (leads_emit _ since router event)

theorem Passage.leads {a b : Course} (passage : Passage a b) : Leads a b := passage.later.leads

/-- States in order that are reached from a first state and come before a last one. -/
structure Passed (first : Course) (states : List Course) (last : Course) : Prop where
  reached : ∀ c ∈ states, Passage first c
  before : ∀ c ∈ states, Later c last
  ordered : states.Pairwise Later

theorem passed_nil (first last : Course) : Passed first [] last :=
  ⟨by simp, by simp, .nil⟩

theorem Passed.append {first middle last : Course} {states others : List Course}
    (a : Passed first states middle) (b : Passed middle others last)
    (passage : Passage first middle) (after : Later middle last) :
    Passed first (states ++ others) last := by
  refine ⟨fun c member => ?_, fun c member => ?_, ?_⟩
  · rcases List.mem_append.mp member with member | member
    · exact a.reached c member
    · exact passage.trans (b.reached c member)
  · rcases List.mem_append.mp member with member | member
    · exact (a.before c member).trans after
    · exact b.before c member
  · refine List.pairwise_append.mpr ⟨a.ordered, b.ordered, fun c early d late => ?_⟩
    exact (a.before c early).trans (b.reached d late).later

theorem Passed.cons {first last : Course} {states : List Course}
    (others : Passed first states last) (after : Later first last) :
    Passed first (first :: states) last := by
  refine ⟨fun c member => ?_, fun c member => ?_, ?_⟩
  · rcases List.mem_cons.mp member with rfl | member
    · exact .rest c
    · exact others.reached c member
  · rcases List.mem_cons.mp member with rfl | member
    · exact after
    · exact others.before c member
  · exact List.pairwise_cons.mpr ⟨fun c member => (others.reached c member).later, others.ordered⟩

/-- What comes before and after does not change the order. -/
theorem Passed.widen {first start last finish : Course} {states : List Course}
    (inner : Passed start states last) (before : Passage first start) (after : Later last finish) :
    Passed first states finish :=
  ⟨fun c member => before.trans (inner.reached c member),
    fun c member => (inner.before c member).trans after, inner.ordered⟩

mutual

/-- The states inside an action lie between its begin and its end. -/
theorem Action.inside_passed (c : Course) :
    (action : Action) → Passed c (action.inside c) (action.run c)
  | .dispatchWith router event nested => by
    rw [Action.inside, run_dispatchWith]
    split
    · exact passed_nil c _
    · next selected =>
      rw [if_neg (by simpa using selected)]
      exact (trail_passed c nested).widen (.rest c) ((Later.rest _).emit c router event)
  | .log router entry nested => by
    rw [Action.inside, run_log]
    split
    · exact passed_nil c _
    · next selected =>
      rw [if_neg (by simpa using selected)]
      exact (trail_passed c nested).widen (.rest c) ((Later.rest _).emit c router entry.captured)
  | .within router nested => by
    rw [Action.inside, run_within]
    -- The states inside begin after the subscriber is set and end before it is set back.
    have entered : Move c (c.moved { c.world with subscriber := router }) := .idle rfl rfl rfl
    have left : Move _ ((runAll nested (c.moved { c.world with subscriber := router })).moved
      { (runAll nested (c.moved { c.world with subscriber := router })).world with
        subscriber := c.world.subscriber }) := .idle rfl rfl rfl
    exact (trail_passed _ nested).widen (.single entered) ((Later.rest _).move left)
  | .advance _ | .newRouter _ | .newSink | .attach _ _ _ _ | .detach _ | .dispatch _ _
  | .trace _ | .record _ _ | .drainSink _ | .freeze _ | .openSession _ _ _ _
  | .openWithSettings _ _ _ | .drain _ | .waitFor _ _ _ | .close _ | .drop _ => passed_nil c _

/-- The states of a run lie between its first and its last. -/
theorem trail_passed (c : Course) :
    (actions : List Action) → Passed c (trail actions c) (runAll actions c)
  | [] => (passed_nil c c).cons (.rest c)
  | action :: rest =>
    have first := action.run_passage c
    have others := (runAll_passage (action.run c) rest).later
    ((action.inside_passed c).append (trail_passed (action.run c) rest) first others).cons
      (first.later.trans others)

end

/-- States in order that are reached from a first state and lead to a last one. -/
structure Between (first : Course) (states : List Course) (last : Course) : Prop where
  reached : ∀ c ∈ states, Passage first c
  leading : ∀ c ∈ states, Leads c last
  ordered : states.Pairwise Leads

theorem trail_between (c : Course) (actions : List Action) :
    Between c (trail actions c) (runAll actions c) :=
  have passed := trail_passed c actions
  ⟨passed.reached, fun d member => (passed.before d member).leads, passed.ordered.imp Later.leads⟩

/-- A run passes through the state in which it ends. -/
theorem runAll_mem_trail (actions : List Action) (c : Course) :
    runAll actions c ∈ trail actions c := by
  induction actions generalizing c with
  | nil => exact List.mem_singleton_self c
  | cons action rest ih =>
    exact List.mem_cons_of_mem _ (List.mem_append_right _ (ih (action.run c)))

end Client

end EventCapture
