import EventCapture.Proofs.Numerals
import EventCapture.Proofs.SinkHistory
import EventCapture.Proofs.Windows
import EventCapture.Report

/-! What a check picks out of a snapshot, and what a report shows of it.

Picking keeps the order of arrival, and is told by the places that it takes. A report shows the
texts of the first records up to its limit and then how many are left. Every text begins with the
number of its record, so that records of different numbers are never taken for each other.
-/

set_option autoImplicit false

namespace EventCapture

/-- A list holds, in their order, just the entries of another for which something holds. -/
def PicksOut {α : Type} (holds : α → Prop) (items picked : List α) : Prop :=
  ∃ places : List Nat, places.Pairwise (· < ·) ∧
    (∀ place, place ∈ places ↔ ∃ item, items[place]? = some item ∧ holds item) ∧
    picked.map some = places.map (items[·]?)

theorem picksOut_nil {α : Type} (holds : α → Prop) : PicksOut holds [] [] :=
  ⟨[], .nil, by simp, rfl⟩

/-- One more entry in front is picked if it holds for it, and moves the places of all others. -/
theorem PicksOut.cons {α : Type} {holds : α → Prop} [DecidablePred holds] {items picked : List α}
    (picks : PicksOut holds items picked) (item : α) :
    PicksOut holds (item :: items) (if holds item then item :: picked else picked) := by
  obtain ⟨places, ascending, exact, shown⟩ := picks
  have moved : (places.map (· + 1)).Pairwise (· < ·) :=
    List.pairwise_map.mpr (ascending.imp Nat.succ_lt_succ)
  have kept : picked.map some = (places.map (· + 1)).map ((item :: items)[·]?) := by
    rw [shown, List.map_map]
    rfl
  by_cases here : holds item
  · rw [if_pos here]
    refine ⟨0 :: places.map (· + 1), ?_, fun place => ?_, ?_⟩
    · refine List.pairwise_cons.mpr ⟨fun place member => ?_, moved⟩
      obtain ⟨_, _, rfl⟩ := List.mem_map.mp member
      exact Nat.succ_pos _
    · cases place with
      | zero => simp [here]
      | succ place => simp [exact]
    · rw [List.map_cons, List.map_cons, kept]
      rfl
  · rw [if_neg here]
    refine ⟨places.map (· + 1), moved, fun place => ?_, kept⟩
    cases place with
    | zero => simp [here]
    | succ place => simp [exact]

theorem picksOut_filter {α : Type} (holds : α → Prop) [DecidablePred holds] (items : List α) :
    PicksOut holds items (items.filter fun item => decide (holds item)) := by
  induction items with
  | nil => exact picksOut_nil holds
  | cons item rest ih =>
    have picks := ih.cons item
    rw [List.filter_cons]
    simpa only [decide_eq_true_eq] using picks

namespace Report

/-- Lines that show the first records, as many as the limit allows, and then the number of the
others if there are any. -/
structure ShowsFirst (records : List Record) (limit : Nat) (lines : List String) : Prop where
  shown : ∀ place < min records.length limit,
    lines[place]? = records[place]?.map fun record => "  " ++ record.text
  others : lines.drop (min records.length limit) =
    if limit < records.length then
      ["  ... " ++ toString (records.length - limit) ++ " more"]
    else []

theorem showsFirst_lines (records : List Record) (limit : Nat) :
    ShowsFirst records limit (lines records limit) := by
  have length : ((records.take limit).map fun record => "  " ++ record.text).length =
      min records.length limit := by
    rw [List.length_map, List.length_take, Nat.min_comm]
  constructor
  · intro place early
    have inside : place < limit := by omega
    rw [lines, List.getElem?_append_left (by omega), List.getElem?_map,
      List.getElem?_take_of_lt inside]
  · rw [lines, ← length, List.drop_left]

/-- A text shows records in lines, if there are any, and otherwise only that there are none. -/
def IsOf (records : List Record) (limit : Nat) (text : String) : Prop :=
  (records = [] → text = "  (no events captured)") ∧
    (records ≠ [] →
      ∃ lines, text = String.intercalate "\n" lines ∧ ShowsFirst records limit lines)

theorem render_of_ne_nil {records : List Record} (nonempty : records ≠ []) (limit : Nat) :
    render records limit = String.intercalate "\n" (lines records limit) :=
  if_neg (by simpa using nonempty)

theorem isOf_render (records : List Record) (limit : Nat) :
    IsOf records limit (render records limit) := by
  constructor
  · rintro rfl
    rfl
  · exact fun nonempty => ⟨_, render_of_ne_nil nonempty limit, showsFirst_lines records limit⟩

end Report

/-! ### Numbers -/

/-- The text of a record begins with its number. -/
theorem Record.toList_text (record : Record) :
    ∃ rest, record.text.toList = '#' :: ((toString record.seq).toList ++ ' ' :: rest) := by
  simp only [text, String.toList_append, List.append_assoc]
  exact ⟨_, rfl⟩

theorem Record.seq_eq_of_text {first second : Record} (same : first.text = second.text) :
    first.seq = second.seq := by
  obtain ⟨rest, begins⟩ := first.toList_text
  obtain ⟨more, begins'⟩ := second.toList_text
  have stops (rest : List Char) : Text.Stops (' ' :: rest) := Text.stops_cons rfl rest
  have behind := (List.cons.inj (begins.symm.trans ((congrArg _ same).trans begins'))).2
  exact (Text.toString_append_inj (stops rest) (stops more) behind).1

namespace Report

/-- The line of a record is not the one that counts the others. -/
theorem line_ne_others (record : Record) (n : Nat) :
    "  " ++ record.text ≠ "  ... " ++ toString n ++ " more" := by
  intro same
  obtain ⟨rest, begins⟩ := record.toList_text
  have texts := congrArg String.toList same
  simp only [String.toList_append, begins] at texts
  exact absurd texts (by simp)

/-- A line of a record is in a report only if a record of its number is among those reported. -/
theorem exists_seq_of_mem_lines {records : List Record} {limit : Nat} {record : Record}
    (member : "  " ++ record.text ∈ lines records limit) :
    ∃ reported ∈ records, reported.seq = record.seq := by
  rw [lines, List.mem_append] at member
  rcases member with shown | last
  · obtain ⟨reported, among, same⟩ := List.mem_map.mp shown
    have texts : reported.text = record.text := by
      have chars := congrArg String.toList same
      simp only [String.toList_append] at chars
      exact String.toList_injective (List.append_cancel_left chars)
    exact ⟨reported, List.mem_of_mem_take among, Record.seq_eq_of_text texts⟩
  · split at last
    · exact absurd (List.mem_singleton.mp last) (line_ne_others record _)
    · cases last

end Report

/-- Whatever a sink shows in a run, no two records in it have one number. -/
theorem Sink.nodup_seq_shown {began : Nat} {wall : Instant} {calls : List SinkCall}
    {answer : SinkAnswer} (member : answer ∈ ((start began wall).run calls).2) :
    (answer.shown.map Record.seq).Nodup := by
  obtain ⟨before, _, _, shown⟩ := shown_of_mem_run member
  have history : _ ++ ((start began wall).run before).1.records =
      (start began wall).additions before :=
    (start began wall).drained_append_records before
  have numbers : (((start began wall).additions before).map Record.seq).Nodup := by
    rw [seq_additions]
    exact List.nodup_range'
  have kept : ((start began wall).run before).1.records.Sublist
      ((start began wall).additions before) := by
    rw [← history]
    exact List.sublist_append_right _ _
  exact numbers.sublist ((shown.trans kept).map Record.seq)

end EventCapture
