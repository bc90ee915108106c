import EventCapture.Proofs.OwnEvents

/-! Delivery of an event that is built on demand.

Three states of the world meet here: the one in which the event is asked for, whose table says where
it goes, the one that the builder leaves behind, whose sinks take it or not, and the one at the end.
Whatever the builder does to routes no longer matters; what it does to sinks does. The records of one
event in one sink are numbered without a gap, since nothing comes between them.
-/

set_option autoImplicit false

namespace EventCapture

namespace World

/-! ### Recording -/

theorem record_accepted (w : World) (id : SinkId) (event : Event) :
    (w.record id event).2 = (w.frozen? id == some false) := by
  unfold record frozen? Sink.record
  cases w.sink? id with
  | none => rfl
  | some sink => cases frozen : sink.sealed <;> simp [frozen]

theorem exists_record_eq (w : World) (id : SinkId) (event : Event) :
    ∃ sinks, (w.record id event).1 = { w with sinks := sinks } := by
  unfold record
  split <;> exact ⟨_, rfl⟩

theorem recordAll_eq_foldl (w : World) (ids : List SinkId) (event : Event) :
    (w.recordAll ids event).1 = ids.foldl (fun later id => (later.record id event).1) w := by
  induction ids generalizing w with
  | nil => rfl
  | cons id rest ih => exact ih (w.record id event).1

/-- Recording freezes nothing, so whether a sink takes the event is settled before it begins. -/
theorem recordAll_accepted (w : World) (ids : List SinkId) (event : Event) :
    (w.recordAll ids event).2 = ids.countP fun id => w.frozen? id == some false := by
  induction ids generalizing w with
  | nil => rfl
  | cons id rest ih =>
    have settled (other : SinkId) : (w.record id event).1.frozen? other = w.frozen? other :=
      (steady_record w id event).seals other
    simp only [recordAll, ih, settled, record_accepted, List.countP_cons]
    cases w.frozen? id == some false <;> rfl

theorem exists_recordAll_eq (w : World) (ids : List SinkId) (event : Event) :
    ∃ sinks, (w.recordAll ids event).1 = { w with sinks := sinks } := by
  induction ids generalizing w with
  | nil => exact ⟨w.sinks, rfl⟩
  | cons id rest ih =>
    obtain ⟨first, once⟩ := exists_record_eq w id event
    obtain ⟨sinks, others⟩ := ih (w.record id event).1
    rw [once] at others
    exact ⟨sinks, (congrArg (fun later => (later.recordAll rest event).1) once).trans others⟩

theorem sink?_recordAll_of_frozen {w : World} {id : SinkId} (frozen : w.frozen? id = some true)
    (ids : List SinkId) (event : Event) : (w.recordAll ids event).1.sink? id = w.sink? id := by
  obtain ⟨sink, found, sealed⟩ := Option.map_eq_some_iff.mp frozen
  rw [sink?_recordAll_of_sealed found sealed, found]

theorem sink?_recordAll_of_not_mem {id : SinkId} {ids : List SinkId} (missed : id ∉ ids) (w : World)
    (event : Event) : (w.recordAll ids event).1.sink? id = w.sink? id := by
  rw [sink?_recordAll, List.count_eq_zero_of_not_mem missed]
  exact congrFun Option.map_id _

/-! ### Emissions -/

/-- If the router wants a name and severity, the builder runs once, and its event is then recorded
along the routes that admitted it before, in the order of the table. Every sink that is open by then
takes it once for every route that leads there, and all else is left as the builder left it. If the
router does not want it, nothing is built and nothing is changed. -/
theorem dispatchWith_delivers {α : Type} (w : World) (router : RouterId) (logger : String)
    (level : Level) (build : World → World × Event × α) :
    let routes := (w.table router).filter (·.admits logger level)
    let built := (build w).1
    let event := (build w).2.1
    let after := (w.dispatchWith router logger level build).1
    (¬ w.Wants router logger level → w.dispatchWith router logger level build = (w, 0, none)) ∧
      (w.Wants router logger level →
        (w.dispatchWith router logger level build).2 =
            (routes.countP fun route => built.frozen? route.sink == some false,
              some (build w).2.2) ∧
          after = routes.foldl (fun later route => (later.record route.sink event).1) built ∧
          after = { built with sinks := after.sinks } ∧
          (∀ id sink, built.sink? id = some sink → sink.sealed = false →
            ∃ later, after.sink? id = some later ∧
              later.plain =
                sink.plain.taking built.elapsed event (routes.countP (·.sink == id))) ∧
          ∀ id, built.frozen? id = some true ∨ (∀ route ∈ routes, route.sink ≠ id) →
            after.sink? id = built.sink? id) := by
  intro routes built event after
  refine ⟨fun unwanted => ?_, fun wanted => ?_⟩
  · rw [← select_ne_nil_iff, not_not] at unwanted
    exact dispatchWith_of_unselected unwanted build
  · have selected : w.select router logger level = routes.map Route.sink := select_of_wants wanted
    have delivered := dispatchWith_of_selected (select_ne_nil_iff.mpr wanted) build
    rw [selected] at delivered
    have reached : after = (built.recordAll (routes.map Route.sink) event).1 :=
      congrArg Prod.fst delivered
    have times (id : SinkId) :
        routes.countP (·.sink == id) = (routes.map Route.sink).count id := by
      rw [List.count, List.countP_map]
      rfl
    refine ⟨?_, ?_, ?_, fun id sink found unsealed => ?_, fun id spared => ?_⟩
    · rw [delivered, recordAll_accepted, List.countP_map]
      rfl
    · rw [reached, recordAll_eq_foldl, List.foldl_map]
    · obtain ⟨sinks, same⟩ := exists_recordAll_eq built (routes.map Route.sink) event
      rw [reached, same]
    · rw [reached, times]
      exact taken_recordAll found unsealed _ event
    · rw [reached]
      obtain frozen | missed := spared
      · exact sink?_recordAll_of_frozen frozen _ event
      · refine sink?_recordAll_of_not_mem (fun member => ?_) built event
        obtain ⟨route, among, same⟩ := List.mem_map.mp member
        exact missed route among same

/-- A router with two routes to the first of three sinks, and one to the second. -/
def crossed (patterns : PatternSet) : World :=
  let sinks := { World.start ⟨0, 0⟩ with sinks := List.replicate 3 (Sink.start 0 ⟨0, 0⟩) }
  let once := (sinks.attach ⟨0⟩ patterns .info ⟨0⟩).1
  let twice := (once.attach ⟨0⟩ patterns .trace ⟨0⟩).1
  (twice.attach ⟨0⟩ patterns .info ⟨1⟩).1

/-- Build an event, but not before another one is emitted to the same routes, what has come to the
first sink is drained, the first route is detached, one is attached to the third sink, and the second
sink is frozen. -/
def meddle (patterns : PatternSet) (w : World) : World × Event × Nat :=
  let emitted := (w.dispatch ⟨0⟩ (Event.plain .info "app" "inner")).1
  let drained := (emitted.drain ⟨0⟩).1
  let detached := (drained.detach ⟨0⟩ ⟨1⟩).1
  let attached := (detached.attach ⟨0⟩ patterns .info ⟨2⟩).1
  let frozen := (attached.freeze ⟨1⟩).1
  (frozen.advance 5, Event.plain .info "app" "outer", 7)

theorem dispatchWith_delivers_meddled :
    let everything : PatternSet := ⟨[.any], by decide⟩
    let before := crossed everything
    let built := (meddle everything before).1
    let outcome := before.dispatchWith ⟨0⟩ "app" .info (meddle everything)
    before.Wants ⟨0⟩ "app" .info ∧ outcome.2 = (2, some 7) ∧
      (outcome.1.kept ⟨0⟩).map (fun record => (record.seq, record.offset, record.event.message)) =
        [(2, 5, "outer"), (3, 5, "outer")] ∧
      outcome.1.sink? ⟨1⟩ = built.sink? ⟨1⟩ ∧ outcome.1.sink? ⟨2⟩ = built.sink? ⟨2⟩ ∧
      outcome.1.routers = built.routers := by
  intro everything before built outcome
  have wanted : before.Wants ⟨0⟩ "app" .info := select_ne_nil_iff.mp (by decide +kernel)
  obtain ⟨_, delivers⟩ := dispatchWith_delivers before ⟨0⟩ "app" .info (meddle everything)
  obtain ⟨answer, _, others, gains, spared⟩ := delivers wanted
  have found : built.sink? ⟨0⟩ = some ((built.sink? ⟨0⟩).get (by decide +kernel)) :=
    (Option.some_get _).symm
  obtain ⟨later, there, kept⟩ := gains ⟨0⟩ _ found (by decide +kernel)
  refine ⟨wanted, answer.trans (by decide +kernel), ?_, spared ⟨1⟩ (.inl (by decide +kernel)),
    spared ⟨2⟩ (.inr (by decide +kernel)), by rw [others]⟩
  have records : later.records = later.plain.records := rfl
  rw [kept_eq, there, Option.elim_some, records, kept]
  decide +kernel

end World

end EventCapture
