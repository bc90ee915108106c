import EventCapture.Proofs.Selection
import EventCapture.Scenario.Run

/-! The check that no errors were logged.

A record offends by its level or by an attached error of any level. The offending records are picked
out first and only then cut off at the limit, so that the failure counts all of them and shows the
first. A record that does not offend has another number than those that do, and so its line is in no
such failure.
-/

set_option autoImplicit false

namespace EventCapture

/-- A record that a capture without errors may not have. -/
def Record.Offends (record : Record) : Prop :=
  record.event.level = .error ∨ record.event.error ≠ none

instance (record : Record) : Decidable record.Offends :=
  inferInstanceAs (Decidable (_ ∨ _))

theorem Record.isError_iff (record : Record) :
    record.event.isError = true ↔ record.Offends := by
  rw [Event.isError, Bool.or_eq_true, beq_iff_eq, Option.isSome_iff_ne_none]
  rfl

namespace View

variable {view : View}

theorem offending_eq (view : View) :
    view.offending = view.records.filter fun record => decide record.Offends :=
  List.filter_congr fun record _ => Bool.eq_iff_iff.mpr (by
    rw [record.isError_iff, decide_eq_true_iff])

theorem mem_offending_iff {record : Record} :
    record ∈ view.offending ↔ record ∈ view.records ∧ record.Offends := by
  rw [offending, List.mem_filter, record.isError_iff]

theorem picksOut_offending (view : View) :
    PicksOut Record.Offends view.records view.offending := by
  rw [offending_eq]
  exact picksOut_filter Record.Offends view.records

theorem offending_eq_nil_iff :
    view.offending = [] ↔ ∀ record ∈ view.records, ¬ record.Offends := by
  simp only [List.eq_nil_iff_forall_not_mem, mem_offending_iff, not_and]

/-- What the check says when there are so many offending records. -/
def offenseCriteria (view : View) (count : Nat) : String :=
  "no errors logged, found " ++ toString count ++ " of " ++ toString view.records.length ++
    " captured event(s)"

theorem checkNoErrors_of_nil (none : view.offending = []) : view.checkNoErrors = .ok () :=
  if_pos (List.isEmpty_iff.mpr none)

theorem checkNoErrors_of_ne_nil (some : view.offending ≠ []) :
    view.checkNoErrors = .error (.assertion (view.offenseCriteria view.offending.length)
      (Report.render view.offending view.limit)) :=
  if_neg (mt List.isEmpty_iff.mp some)

theorem checkNoErrors_eq_ok_iff :
    view.checkNoErrors = .ok () ↔ ∀ record ∈ view.records, ¬ record.Offends := by
  rw [← offending_eq_nil_iff]
  constructor
  · intro passed
    by_contra some
    rw [checkNoErrors_of_ne_nil some] at passed
    contradiction
  · exact checkNoErrors_of_nil

/-- A failure that counts all offending records of a view and shows the first of them in lines, and
none besides. -/
structure TellsOffending (view : View) (offending : List Record) (lines : List String)
    (failure : Failure) : Prop where
  picked : PicksOut Record.Offends view.records offending
  some : offending ≠ []
  failure : failure =
    .assertion (view.offenseCriteria offending.length) (String.intercalate "\n" lines)
  shown : Report.ShowsFirst offending view.limit lines
  /-- Records that do not offend are left out, if every record has a number of its own. -/
  others : (view.records.map Record.seq).Nodup → ∀ record ∈ view.records, ¬ record.Offends →
    "  " ++ record.text ∉ lines

theorem line_notMem_of_not_offends (numbered : (view.records.map Record.seq).Nodup)
    {record : Record} (member : record ∈ view.records) (harmless : ¬ record.Offends) (limit : Nat) :
    "  " ++ record.text ∉ Report.lines view.offending limit := by
  intro line
  obtain ⟨reported, among, same⟩ := Report.exists_seq_of_mem_lines line
  obtain ⟨there, offends⟩ := mem_offending_iff.mp among
  obtain rfl := List.inj_on_of_nodup_map numbered there member same
  exact harmless offends

theorem tellsOffending (some : view.offending ≠ []) :
    view.TellsOffending view.offending (Report.lines view.offending view.limit)
      (.assertion (view.offenseCriteria view.offending.length)
        (Report.render view.offending view.limit)) where
  picked := view.picksOut_offending
  some := some
  failure := by rw [Report.render_of_ne_nil some]
  shown := Report.showsFirst_lines _ _
  others := fun numbered _ member harmless =>
    line_notMem_of_not_offends numbered member harmless view.limit

/-- The check passes just when no record offends. Otherwise it tells how many do, of how many, and
shows the first of them; the assertion aborts with the same failure, and only then. Records that a
sink shows have numbers of their own. -/
theorem checkNoErrors_exact (view : View) :
    (view.checkNoErrors = .ok () ↔ ∀ record ∈ view.records, ¬ record.Offends) ∧
      (∀ failure, view.checkNoErrors = .error failure →
        (∃ offending lines, view.TellsOffending offending lines failure) ∧
          ∃ criteria rendering, failure = .assertion criteria rendering ∧
            failure.message = "Assertion failed: expected " ++ criteria ++ "\n" ++ rendering) ∧
      (∀ failure, Scenario.Query.assertNoErrors.answer view = .aborted failure ↔
        view.checkNoErrors = .error failure) ∧
      (Scenario.Query.assertNoErrors.answer view = .done ↔ view.checkNoErrors = .ok ()) ∧
      ∀ (began : Nat) (wall : Instant) (calls : List SinkCall),
        ∀ answer ∈ ((Sink.start began wall).run calls).2, (answer.shown.map Record.seq).Nodup := by
  refine ⟨checkNoErrors_eq_ok_iff, fun failure failed => ?_, fun failure => ?_, ?_,
    fun _ _ _ _ member => Sink.nodup_seq_shown member⟩
  · have some : view.offending ≠ [] := by
      intro none
      rw [checkNoErrors_of_nil none] at failed
      contradiction
    rw [checkNoErrors_of_ne_nil some] at failed
    obtain rfl := Except.error.inj failed
    exact ⟨⟨_, _, tellsOffending some⟩, _, _, rfl, rfl⟩
  · unfold Scenario.Query.answer Scenario.asserted
    cases view.checkNoErrors <;> simp
  · unfold Scenario.Query.answer Scenario.asserted
    cases view.checkNoErrors <;> simp

/-- Records of which three offend: two by their level, and between them one by an error alone. -/
def mixedRecords : List Record :=
  let event (level : Level) := Event.plain level "app" "done"
  [⟨3, ⟨60, 0⟩, 0, event .warn⟩, ⟨4, ⟨60, 0⟩, 0, event .error⟩,
    ⟨5, ⟨60, 0⟩, 0, (event .debug).withError (.ofMessage "full")⟩, ⟨6, ⟨60, 0⟩, 0, event .info⟩,
    ⟨7, ⟨60, 0⟩, 0, event .error⟩]

theorem checkNoErrors_exact_mixedRecords :
    let view : View := ⟨⟨mixedRecords, true⟩, 2⟩
    let harmless : View := ⟨⟨mixedRecords.take 1, false⟩, 0⟩
    harmless.checkNoErrors = .ok () ∧
      ∃ offending lines failure, view.checkNoErrors = .error failure ∧
        view.TellsOffending offending lines failure ∧
        Scenario.Query.assertNoErrors.answer view = .aborted failure ∧
        ∀ record ∈ mixedRecords, ¬ record.Offends → "  " ++ record.text ∉ lines := by
  intro view harmless
  refine ⟨(checkNoErrors_exact harmless).1.mpr (by decide), ?_⟩
  obtain ⟨passes, tells, aborts, _⟩ := checkNoErrors_exact view
  cases checked : view.checkNoErrors with
  | ok =>
    have clean := passes.mp checked
    exact absurd clean (by decide)
  | error failure =>
    obtain ⟨⟨offending, lines, told⟩, _⟩ := tells failure checked
    exact ⟨offending, lines, failure, rfl, told, (aborts failure).mpr checked,
      told.others (by decide)⟩

end View

end EventCapture
