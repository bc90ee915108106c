import EventCapture.Proofs.InstantTexts
import EventCapture.Report
import EventCapture.Text.Pieces

/-! The lines of a report.

A report puts the texts of records one under the other, and the texts are taken as they are. So a
line feed in a logger name, in a message or in a text of an error breaks the line of its record in
two, and the report has one line for each record just when no record that it shows has one. Nothing
else in the text of a record can break the line: not the number, not the time and not the level.
-/

set_option autoImplicit false

namespace EventCapture

/-- A text without a line feed. -/
def OnOneLine (text : String) : Prop := '\n' ∉ text.toList

instance (text : String) : Decidable (OnOneLine text) :=
  inferInstanceAs (Decidable ('\n' ∉ text.toList))

theorem onOneLine_append {first second : String} :
    OnOneLine (first ++ second) ↔ OnOneLine first ∧ OnOneLine second := by
  rw [OnOneLine, String.toList_append, List.mem_append, not_or]
  rfl

theorem onOneLine_toString (n : Nat) : OnOneLine (toString n) := Text.notMem_toString rfl n

theorem onOneLine_level (level : Level) : OnOneLine (Text.padRight 5 level.name) := by
  cases level <;> decide

namespace ErrorChain

theorem onOneLine_textFrom {entry : ErrorEntry} {causes : List ErrorEntry} :
    OnOneLine (textFrom entry causes) ↔
      ∀ each ∈ entry :: causes, OnOneLine each.kind ∧ OnOneLine each.message := by
  have colon : OnOneLine ": " := by decide
  have opens : OnOneLine " (caused by " := by decide
  have closes : OnOneLine ")" := by decide
  induction causes generalizing entry with
  | nil => simp [textFrom, onOneLine_append, colon]
  | cons cause rest ih =>
    have behind := @ih cause
    rw [List.forall_mem_cons]
    simp [textFrom, onOneLine_append, colon, opens, closes, behind, and_assoc]

theorem onOneLine_text (error : ErrorChain) :
    OnOneLine error.text ↔
      ∀ entry ∈ error.entries, OnOneLine entry.kind ∧ OnOneLine entry.message :=
  onOneLine_textFrom

end ErrorChain

namespace Record

/-- No text that a report takes from the record has a line feed. -/
structure Unbroken (record : Record) : Prop where
  logger : OnOneLine record.event.logger
  message : OnOneLine record.event.message
  errors : ∀ error ∈ record.event.error, ∀ entry ∈ error.entries,
    OnOneLine entry.kind ∧ OnOneLine entry.message

theorem unbroken_iff {record : Record} :
    record.Unbroken ↔ OnOneLine record.event.logger ∧ OnOneLine record.event.message ∧
      ∀ error ∈ record.event.error, ∀ entry ∈ error.entries,
        OnOneLine entry.kind ∧ OnOneLine entry.message :=
  ⟨fun ⟨logger, message, errors⟩ => ⟨logger, message, errors⟩,
    fun ⟨logger, message, errors⟩ => ⟨logger, message, errors⟩⟩

instance (record : Record) : Decidable record.Unbroken := decidable_of_iff _ unbroken_iff.symm

/-- The text of a record is one line just when the texts that were put into it are. -/
theorem onOneLine_text (record : Record) : OnOneLine record.text ↔ record.Unbroken := by
  have number : OnOneLine "#" := by decide
  have blank : OnOneLine " " := by decide
  have colon : OnOneLine ": " := by decide
  have opens : OnOneLine " [error: " := by decide
  have closes : OnOneLine "]" := by decide
  have nothing : OnOneLine "" := by decide
  have time : OnOneLine record.timestamp.reportText := record.timestamp.newline_notMem_reportText
  rw [unbroken_iff]
  cases error : record.event.error with
  | none =>
    simp only [text, error, onOneLine_append, onOneLine_toString, onOneLine_level, number, blank,
      colon, nothing, time, true_and, and_true]
    simp
  | some chain =>
    simp only [text, error, onOneLine_append, onOneLine_toString, onOneLine_level, number, blank,
      colon, opens, closes, time, chain.onOneLine_text, true_and, and_true]
    simp [and_assoc]

end Record

namespace Report

open Text

variable {records : List Record} {limit : Nat}

/-- The lines of the text that a report is. -/
def renderedLines (records : List Record) (limit : Nat) : List (List Char) :=
  pieces '\n' (render records limit).toList

/-- What a report is meant to be. -/
structure OneLineEach (records : List Record) (limit : Nat) : Prop where
  /-- There is a line for each record that is shown, and one more if there are others. -/
  count : (renderedLines records limit).length =
    min records.length limit + if limit < records.length then 1 else 0
  shown : ∀ (i : Nat) (record : Record), i < limit → records[i]? = some record →
    (renderedLines records limit)[i]? = some ("  " ++ record.text).toList
  others : limit < records.length →
    (renderedLines records limit)[limit]? =
      some ("  ... " ++ toString (records.length - limit) ++ " more").toList

theorem toList_render (nonempty : records ≠ []) (limit : Nat) :
    (render records limit).toList = joined '\n' ((lines records limit).map String.toList) := by
  rw [render, if_neg (by simpa using nonempty), String.toList_intercalate]
  exact (joined_eq_intercalate '\n' _).symm

theorem length_lines (records : List Record) (limit : Nat) :
    (lines records limit).length =
      min records.length limit + if limit < records.length then 1 else 0 := by
  rw [lines, List.length_append, List.length_map, List.length_take, Nat.min_comm,
    apply_ite List.length]
  rfl

theorem lines_ne_nil (nonempty : records ≠ []) (limit : Nat) :
    lines records limit ≠ [] := by
  have positive := List.length_pos_iff.mpr nonempty
  rw [← List.length_pos_iff, length_lines]
  split <;> omega

/-- A report has the lines of its lines. -/
theorem renderedLines_eq (nonempty : records ≠ []) (limit : Nat) :
    renderedLines records limit =
      (lines records limit).flatMap fun line => pieces '\n' line.toList := by
  rw [renderedLines, toList_render nonempty, pieces_joined, List.flatMap_map]
  simpa using lines_ne_nil nonempty limit

theorem onOneLine_others (n : Nat) : OnOneLine ("  ... " ++ toString n ++ " more") := by
  have dots : OnOneLine "  ... " := by decide
  have others : OnOneLine " more" := by decide
  exact onOneLine_append.mpr ⟨onOneLine_append.mpr ⟨dots, onOneLine_toString n⟩, others⟩

theorem length_renderedLines (nonempty : records ≠ []) (limit : Nat) :
    (renderedLines records limit).length =
      min records.length limit + (if limit < records.length then 1 else 0) +
        ((records.take limit).map fun record => record.text.toList.count '\n').sum := by
  have shown (records : List Record) :
      ((records.map fun record => "  " ++ record.text).map fun line =>
        (pieces '\n' line.toList).length).sum =
        records.length + (records.map fun record => record.text.toList.count '\n').sum := by
    induction records with
    | nil => rfl
    | cons record rest ih =>
      have indent : "  ".toList.count '\n' = 0 := by decide
      simp only [List.map_cons, List.sum_cons, List.length_cons, length_pieces,
        String.toList_append, List.count_append, indent, Nat.zero_add] at ih ⊢
      omega
  have others (n : Nat) : (pieces '\n' ("  ... " ++ toString n ++ " more").toList).length = 1 := by
    rw [pieces_of_notMem (onOneLine_others n)]
    rfl
  rw [renderedLines_eq nonempty, List.length_flatMap, lines, List.map_append, List.sum_append,
    shown, List.length_take, Nat.min_comm]
  split
  · simp only [List.map_cons, List.map_nil, List.sum_cons, List.sum_nil, others]
    omega
  · rfl

theorem onOneLine_lines (unbroken : ∀ record ∈ records.take limit, record.Unbroken) :
    ∀ line ∈ lines records limit, OnOneLine line := by
  have indent : OnOneLine "  " := by decide
  intro line member
  rw [lines, List.mem_append] at member
  rcases member with shown | last
  · obtain ⟨record, among, rfl⟩ := List.mem_map.mp shown
    exact onOneLine_append.mpr ⟨indent, record.onOneLine_text.mpr (unbroken record among)⟩
  · split at last
    · rw [List.mem_singleton.mp last]
      exact onOneLine_others _
    · cases last

theorem renderedLines_of_unbroken (nonempty : records ≠ [])
    (unbroken : ∀ record ∈ records.take limit, record.Unbroken) :
    renderedLines records limit = (lines records limit).map String.toList := by
  have whole : ∀ line ∈ lines records limit, pieces '\n' line.toList = [line.toList] :=
    fun line member => pieces_of_notMem (onOneLine_lines unbroken line member)
  rw [renderedLines_eq nonempty, List.flatMap_def, List.map_congr_left whole, ← List.flatMap_def,
    List.map_eq_flatMap]

theorem oneLineEach_of_unbroken (nonempty : records ≠ [])
    (unbroken : ∀ record ∈ records.take limit, record.Unbroken) : OneLineEach records limit := by
  have whole := renderedLines_of_unbroken nonempty unbroken
  refine ⟨?_, fun i record early found => ?_, fun more => ?_⟩
  · rw [whole, List.length_map, length_lines]
  · have shown : (records.take limit)[i]? = some record := by
      rw [List.getElem?_take_of_lt early, found]
    have inside := (List.getElem?_eq_some_iff.mp shown).1
    rw [whole, lines, List.map_append, List.getElem?_append_left (by simpa using inside),
      List.map_map, List.getElem?_map, shown]
    rfl
  · have shown : (records.take limit).length = limit := by
      rw [List.length_take]
      omega
    rw [whole, lines, List.map_append, List.getElem?_append_right (by simp), List.length_map,
      List.length_map, shown, Nat.sub_self, if_pos more]
    rfl

theorem OneLineEach.unbroken (each : OneLineEach records limit) :
    ∀ record ∈ records.take limit, record.Unbroken := by
  intro record member
  obtain ⟨i, inside, rfl⟩ := List.mem_take_iff_getElem.mp member
  have line := each.shown i _ (by omega) (List.getElem?_eq_getElem (by omega))
  have whole : OnOneLine ("  " ++ _) := notMem_of_mem_pieces (List.mem_of_getElem? line)
  exact (Record.onOneLine_text _).mp (onOneLine_append.mp whole).2

/-- A report has one line for each record that it shows just when no text in them has a line feed.
Every line feed in one of them makes the report a line longer. -/
theorem oneLineEach_iff (nonempty : records ≠ []) (limit : Nat) :
    (OneLineEach records limit ↔ ∀ record ∈ records.take limit, record.Unbroken) ∧
      (renderedLines records limit).length =
        min records.length limit + (if limit < records.length then 1 else 0) +
          ((records.take limit).map fun record => record.text.toList.count '\n').sum ∧
      ∀ record : Record, OnOneLine record.text ↔ record.Unbroken :=
  ⟨⟨OneLineEach.unbroken, oneLineEach_of_unbroken nonempty⟩, length_renderedLines nonempty limit,
    Record.onOneLine_text⟩

/-- Records of which only the last has a line feed in it, in a cause of its error. -/
def brokenLast : List Record :=
  let begun := Event.plain .info "app" "begun"
  let failed := Event.plain .error "app.store" ""
  [⟨0, ⟨59, 1500000000⟩, 0, begun⟩, ⟨1, ⟨60, 0⟩, 7, failed.withError (.ofMessage "full")⟩,
    ⟨2, ⟨60, 0⟩, 7, failed.withError ⟨⟨"Io", "gone"⟩, [⟨"Os", "no such\nfile\n"⟩]⟩⟩]

theorem oneLineEach_iff_brokenLast :
    brokenLast ≠ [] ∧ OneLineEach brokenLast 0 ∧ OneLineEach brokenLast 2 ∧
      ¬ OneLineEach brokenLast 3 ∧ (renderedLines brokenLast 3).length = 5 := by
  have nonempty : brokenLast ≠ [] := by decide
  obtain ⟨whole, length, _⟩ := oneLineEach_iff nonempty 3
  refine ⟨nonempty, (oneLineEach_iff nonempty 0).1.mpr ?_, (oneLineEach_iff nonempty 2).1.mpr ?_,
    ?_, ?_⟩
  · decide
  · decide
  · rw [whole]
    decide
  · rw [length]
    decide +kernel

/-- A message with a line feed makes one record two lines. -/
theorem not_oneLineEach_of_divided_message :
    let records : List Record := [⟨0, ⟨0, 0⟩, 0, Event.plain .info "app" "first\nsecond"⟩]
    records ≠ [] ∧ ¬ OneLineEach records usualLimit ∧
      ¬ ∀ record ∈ records, OnOneLine record.text := by
  intro records
  have divided : ¬ ∀ record ∈ records, record.Unbroken := by decide
  refine ⟨by decide, fun each => divided each.unbroken, fun whole => divided fun record among => ?_⟩
  exact record.onOneLine_text.mp (whole record among)

end Report

end EventCapture
