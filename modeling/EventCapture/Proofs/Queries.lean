import EventCapture.Proofs.Punctuality
import EventCapture.Proofs.Selection

/-! Queries of one view tell of the same records.

All matching records are those that the filter lets pass, in the order of arrival; every other query
and check can be read off this list. A wait asks the same of the session at every poll, so that it
ends with the first match of the first view that has one.
-/

set_option autoImplicit false

namespace EventCapture

namespace View

variable {view : View} {filter : Filter}

theorem picksOut_allMatching (view : View) (filter : Filter) :
    PicksOut (fun record => filter.passes record = true) view.records
      (view.allMatching filter) := by
  have picks := picksOut_filter (fun record => filter.passes record = true) view.records
  simpa only [allMatching, Bool.decide_eq_true] using picks

theorem firstMatching?_eq (view : View) (filter : Filter) :
    view.firstMatching? filter = (view.allMatching filter).head? :=
  List.head?_filter.symm

theorem hasMatching_iff : view.hasMatching filter = true ↔ view.allMatching filter ≠ [] := by
  rw [hasMatching, List.any_eq_true, allMatching, Ne, List.filter_eq_nil_iff]
  simp

theorem hasMatching_eq_isSome (view : View) (filter : Filter) :
    view.hasMatching filter = (view.firstMatching? filter).isSome := by
  rw [Bool.eq_iff_iff, hasMatching_iff, firstMatching?_eq, List.isSome_head?]

theorem hasMatching_of_firstMatching? {record : Record}
    (found : view.firstMatching? filter = some record) : view.hasMatching filter = true := by
  rw [hasMatching_eq_isSome, found, Option.isSome_some]

theorem hasMatching_eq_false_iff :
    view.hasMatching filter = false ↔ view.firstMatching? filter = none := by
  rw [hasMatching_eq_isSome, Option.isSome_eq_false_iff, Option.isNone_iff_eq_none]

theorem expectMatching_eq_ok_iff {record : Record} :
    view.expectMatching filter = .ok record ↔ view.firstMatching? filter = some record := by
  unfold expectMatching
  cases view.firstMatching? filter <;> simp

theorem expectMatching_eq_error_iff {failure : Failure} :
    view.expectMatching filter = .error failure ↔
      view.firstMatching? filter = none ∧
        failure = .assertion ("an event matching " ++ filter.text) view.report := by
  unfold expectMatching
  cases view.firstMatching? filter <;> simp [eq_comm]

theorem checkCount_eq_ok_iff {expected : Nat} :
    view.checkCount filter expected = .ok () ↔ view.countMatching filter = expected := by
  unfold checkCount
  dsimp only
  split <;> simp [*]

theorem checkCount_eq_error_iff {expected : Nat} {failure : Failure} :
    view.checkCount filter expected = .error failure ↔
      view.countMatching filter ≠ expected ∧
        failure = .assertion (toString expected ++ " event(s) matching " ++ filter.text ++
          ", found " ++ toString (view.countMatching filter)) view.report := by
  unfold checkCount
  dsimp only
  split <;> simp [*, eq_comm (a := failure)]

/-- What the queries and checks of a view say about a filter goes back to one list of records. -/
structure InAccord (view : View) (filter : Filter) (matching : List Record) : Prop where
  picked : PicksOut (fun record => filter.passes record = true) view.records matching
  all : view.allMatching filter = matching
  count : view.countMatching filter = matching.length
  has_iff : view.hasMatching filter = true ↔ matching ≠ []
  first : view.firstMatching? filter = matching.head?
  expect_ok : ∀ record, view.expectMatching filter = .ok record ↔ matching.head? = some record
  expect_error : ∀ failure, view.expectMatching filter = .error failure →
    ∃ rendering, failure = .assertion ("an event matching " ++ filter.text) rendering ∧
      Report.IsOf view.records view.limit rendering
  check_ok : ∀ expected, view.checkCount filter expected = .ok () ↔ matching.length = expected
  check_error : ∀ expected failure, view.checkCount filter expected = .error failure →
    ∃ rendering, failure = .assertion (toString expected ++ " event(s) matching " ++ filter.text ++
        ", found " ++ toString matching.length) rendering ∧
      Report.IsOf view.records view.limit rendering

theorem inAccord (view : View) (filter : Filter) :
    view.InAccord filter (view.allMatching filter) where
  picked := view.picksOut_allMatching filter
  all := rfl
  count := rfl
  has_iff := hasMatching_iff
  first := view.firstMatching?_eq filter
  expect_ok := fun record => by rw [expectMatching_eq_ok_iff, firstMatching?_eq]
  expect_error := fun failure failed => by
    obtain ⟨_, rfl⟩ := expectMatching_eq_error_iff.mp failed
    exact ⟨_, rfl, Report.isOf_render _ _⟩
  check_ok := fun expected => checkCount_eq_ok_iff
  check_error := fun expected failure failed => by
    obtain ⟨_, rfl⟩ := checkCount_eq_error_iff.mp failed
    exact ⟨_, rfl, Report.isOf_render _ _⟩

end View

/-- A wait that looks at a session before it sleeps and after every sleep ends as the queries of
these views say. -/
structure EndsAsViewed {α : Type} (ref : SessionRef) (filter : Filter) (policy : WaitPolicy)
    (stage : Nat → Stage α) (waited : Waited α) : Prop where
  ok_iff : (∃ record, waited.result = .ok record) ↔
    ((stage 0).world.sessionView ref).hasMatching filter = true ∨
      ∃ k, 0 < k ∧ k ≤ waited.sleeps ∧
        ((stage k).world.sessionView ref).hasMatching filter = true
  /-- It gives the first match of the last view, and none before had any. -/
  first : ∀ record, waited.result = .ok record →
    ((stage waited.sleeps).world.sessionView ref).firstMatching? filter = some record ∧
      ∀ k < waited.sleeps, ((stage k).world.sessionView ref).hasMatching filter = false
  /-- It gives up only for want of time, or when the session is closed. -/
  vain : ∀ failure, waited.result = .error failure →
    failure.kind = .timeout ∧
      (policy.timeout ≤ waited.elapsed ∨
        ((stage waited.sleeps).world.session? ref).all Session.isClosed = true)

theorem Settled.endsAsViewed {α : Type} {ref : SessionRef} {filter : Filter} {policy : WaitPolicy}
    {began : Nat} {stage : Stage α} {waited : Waited α}
    (settled : Settled ref filter policy began stage waited) :
    EndsAsViewed ref filter policy (stage.after policy began) waited where
  ok_iff := by
    constructor
    · rintro ⟨record, found⟩
      have seen := View.hasMatching_of_firstMatching? ((settled.ok_iff_seen record).mp found)
      obtain none | some := Nat.eq_zero_or_pos waited.sleeps
      · exact .inl (none ▸ seen)
      · exact .inr ⟨waited.sleeps, some, Nat.le_refl _, seen⟩
    · intro seen
      have some : ∃ k ≤ waited.sleeps,
          ((stage.after policy began k).world.sessionView ref).hasMatching filter = true := by
        obtain before | ⟨k, _, within, later⟩ := seen
        · exact ⟨0, Nat.zero_le _, before⟩
        · exact ⟨k, within, later⟩
      obtain ⟨k, within, matching⟩ := some
      -- A poll that sees a match is the last one.
      obtain below | rfl := Nat.lt_or_eq_of_le within
      · rw [View.hasMatching_eq_false_iff.mpr (settled.unseen below)] at matching
        contradiction
      · rw [View.hasMatching_eq_isSome] at matching
        obtain ⟨record, found⟩ := Option.isSome_iff_exists.mp matching
        exact ⟨record, (settled.ok_iff_seen record).mpr found⟩
  first := fun record found =>
    ⟨(settled.ok_iff_seen record).mp found,
      fun _ below => View.hasMatching_eq_false_iff.mpr (settled.unseen below)⟩
  vain := by
    intro failure failed
    obtain ⟨_, _, found⟩ | ⟨_, spent, expired⟩ := settled.ended
    · rw [failed] at found
      contradiction
    · rw [failed] at expired
      rw [Except.error.inj expired, settled.took]
      exact ⟨rfl, spent.symm⟩

/-- A wait without any time looks once, like a query of the session. -/
theorem World.waitFor_of_no_time {α : Type} (w : World) (ref : SessionRef) (filter : Filter)
    (interval : Nat) (others : List (Due α)) :
    (w.waitFor ref filter ⟨0, interval⟩ others).2 =
      ⟨(w.sessionView ref).conclusion filter, 0, 0, [], others⟩ := by
  have looked : (w.sessionView ref).firstMatching? filter =
      (w.events ref).records.find? filter.passes := rfl
  unfold World.waitFor World.roundsEnough World.waitRounds World.poll View.conclusion
  rw [looked]
  cases (w.events ref).records.find? filter.passes with
  | some record => simp only [Nat.sub_self]
  | none =>
    simp only [Nat.zero_le, decide_true, Bool.or_true, if_true, World.waitExpired,
      (World.atOnce_trace _ _).elapsed, Nat.sub_self]
    rfl

/-- All queries and checks of a view speak of the records that the filter lets pass, in their order.
A wait for a session, whatever others do in its sleeps as long as time goes on, ends with a match
just when some view that it looks at has one; without any time it is a query for the first match. -/
theorem queries_agree (filter : Filter) :
    (∀ view : View, view.InAccord filter (view.allMatching filter)) ∧
      ∀ {α : Type} (w : World) (ref : SessionRef) (others : List (Due α)),
        (∀ policy : WaitPolicy, Forward others →
          EndsAsViewed ref filter policy (Stage.after policy w.elapsed ⟨w, others⟩)
            (w.waitFor ref filter policy others).2) ∧
          ∀ interval record, (w.waitFor ref filter ⟨0, interval⟩ others).2.result = .ok record ↔
            (w.sessionView ref).firstMatching? filter = some record := by
  refine ⟨fun view => view.inAccord filter, fun w ref others => ⟨fun policy forward => ?_,
    fun interval record => ?_⟩⟩
  · exact (World.waitFor_settled_of_forward forward w ref filter policy).endsAsViewed
  · rw [World.waitFor_of_no_time, View.conclusion]
    cases (w.sessionView ref).firstMatching? filter <;> simp

/-- Another one writes in the first sleep of a wait and takes its time, so that the match is seen
only after the deadline. -/
def slowWriter : Due Unit where
  delay := 500000
  act := fun w =>
    ((w.dispatch World.processRouter (Event.plain .info "app.part" "ready")).1.advance 3000000, ())

theorem queries_agree_slowWriter :
    let w := Client.listening.world
    let filter := Filter.ofCalls [.message (.equals "ready")]
    let policy : WaitPolicy := ⟨2000000, 1000000⟩
    let stage := Stage.after policy w.elapsed ⟨w, [slowWriter]⟩
    let waited := (w.waitFor ⟨0⟩ filter policy [slowWriter]).2
    Forward [slowWriter] ∧ EndsAsViewed ⟨0⟩ filter policy stage waited ∧
      (waited.sleeps, waited.elapsed) = (1, 3500000) ∧
      (∃ record, waited.result = .ok record) ∧
      ((stage 0).world.sessionView ⟨0⟩).InAccord filter [] ∧
      ∀ record, (w.waitFor ⟨0⟩ filter ⟨0, 1000000⟩ [slowWriter]).2.result ≠ .ok record := by
  intro w filter policy stage waited
  have forward : Forward [slowWriter] := by
    intro due member before
    obtain rfl := List.mem_singleton.mp member
    refine Nat.le_trans (Nat.le_of_eq ?_) (Nat.le_add_right _ 3000000)
    rw [World.dispatch_eq]
    exact (World.atOnce_recordAll before _ _).elapsed.symm
  obtain ⟨views, waits⟩ := queries_agree filter
  obtain ⟨lasting, atOnce⟩ := waits w ⟨0⟩ [slowWriter]
  have ends : EndsAsViewed ⟨0⟩ filter policy stage waited := lasting policy forward
  have nothing : ((stage 0).world.sessionView ⟨0⟩).allMatching filter = [] := by decide +kernel
  have slept : (waited.sleeps, waited.elapsed) = (1, 3500000) := by decide +kernel
  have once : waited.sleeps = 1 := (Prod.mk.inj slept).1
  refine ⟨forward, ends, slept, ?_, ?_, fun record => ?_⟩
  · exact ends.ok_iff.mpr (.inr ⟨1, Nat.one_pos, Nat.le_of_eq once.symm, by decide +kernel⟩)
  · have accord := views ((stage 0).world.sessionView ⟨0⟩)
    rwa [nothing] at accord
  · rw [Ne, atOnce 1000000 record]
    have unseen : (w.sessionView ⟨0⟩).firstMatching? filter = none := by decide +kernel
    simp [unseen]

end EventCapture
