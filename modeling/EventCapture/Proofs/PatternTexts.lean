import EventCapture.Pattern.Set
import EventCapture.Proofs.PatternGrammar
import Mathlib.Data.List.Nodup

/-! Patterns and sets of patterns are read back from their texts.

The text of a pattern is the logger name that the pattern was written for, so that it is read as the
same pattern again. No pattern that was read holds a blank. A comma with a space behind it therefore
stands nowhere in the listing of a set but between two patterns, whatever commas and brackets the
patterns hold themselves.
-/

set_option autoImplicit false

namespace EventCapture

namespace NamePattern

/-- The patterns that reading gives. -/
def IsRead (pattern : NamePattern) : Prop := ∃ raw, parse raw = .ok pattern

theorem text_of_denotes {name : String} {pattern : NamePattern} (denotes : Denotes name pattern) :
    pattern.text = name := by
  cases denotes with
  | any star => exact star.symm
  | descendants below => exact below.symm
  | exact => rfl

theorem text_of_parse {raw : String} {pattern : NamePattern} (read : parse raw = .ok pattern) :
    pattern.text = Name.ofTarget raw :=
  text_of_denotes (parse_eq_ok_iff.mp read).2

/-- The patterns that reading gives are those that are read from their own texts. -/
theorem isRead_iff {pattern : NamePattern} : pattern.IsRead ↔ parse pattern.text = .ok pattern := by
  refine ⟨?_, fun read => ⟨pattern.text, read⟩⟩
  rintro ⟨raw, read⟩
  obtain ⟨grammatical, denotes⟩ := parse_eq_ok_iff.mp read
  rw [text_of_parse read, parse_eq_ok_iff, Name.ofTarget_ofTarget]
  exact ⟨grammatical_ofTarget_iff.mpr grammatical, denotes⟩

theorem eq_of_text {first second : NamePattern} (read : first.IsRead) (other : second.IsRead)
    (same : first.text = second.text) : first = second := by
  have again := isRead_iff.mp read
  rw [same, isRead_iff.mp other] at again
  exact (Except.ok.inj again).symm

theorem IsRead.spaceless {pattern : NamePattern} (read : pattern.IsRead) :
    ' ' ∉ pattern.text.toList := by
  intro member
  have unblank := (parse_eq_ok_iff.mp (isRead_iff.mp read)).1.unblank ' ' member
  exact absurd unblank (by decide)

end NamePattern

namespace PatternSet

/-! ### Reading a set -/

theorem parseAll_cons_eq_ok_iff {raw : String} {rest : List String} {patterns : List NamePattern} :
    parseAll (raw :: rest) = .ok patterns ↔
      ∃ pattern others, NamePattern.parse raw = .ok pattern ∧ parseAll rest = .ok others ∧
        patterns = pattern :: others := by
  rw [parseAll]
  cases NamePattern.parse raw with
  | error fault => simp
  | ok pattern => cases parseAll rest <;> simp [Except.map, eq_comm]

theorem parseAll_eq_ok_iff {raws : List String} {patterns : List NamePattern} :
    parseAll raws = .ok patterns ↔
      List.Forall₂ (fun raw pattern => NamePattern.parse raw = .ok pattern) raws patterns := by
  induction raws generalizing patterns with
  | nil => simp [parseAll, eq_comm]
  | cons raw rest ih => simp only [parseAll_cons_eq_ok_iff, List.forall₂_cons_left_iff, ih]

theorem mem_withoutRepeats {seen patterns : List NamePattern} {pattern : NamePattern} :
    pattern ∈ withoutRepeats seen patterns ↔ pattern ∈ seen ∨ pattern ∈ patterns := by
  fun_induction withoutRepeats seen patterns with
  | case1 seen => simp
  | case2 seen first rest again ih =>
    have there : pattern = first → pattern ∈ seen := by
      rintro rfl
      simpa using again
    rw [ih, List.mem_cons, ← or_assoc, or_iff_left_of_imp there]
  | case3 seen first rest _ ih => simp [ih, or_assoc, or_left_comm]

/-- Nothing stays twice. -/
theorem nodup_withoutRepeats {seen patterns : List NamePattern} (once : seen.Nodup) :
    (withoutRepeats seen patterns).Nodup := by
  fun_induction withoutRepeats seen patterns with
  | case1 seen => exact List.nodup_reverse.mpr once
  | case2 seen first rest _ ih => exact ih once
  | case3 seen first rest new ih => exact ih (List.nodup_cons.mpr ⟨by simpa using new, once⟩)

/-- What holds nothing twice stays as it is. -/
theorem withoutRepeats_of_nodup {seen patterns : List NamePattern}
    (once : (seen.reverse ++ patterns).Nodup) :
    withoutRepeats seen patterns = seen.reverse ++ patterns := by
  fun_induction withoutRepeats seen patterns with
  | case1 seen => rw [List.append_nil]
  | case2 seen first rest again ih =>
    have there : first ∈ seen.reverse := by simpa using again
    exact absurd rfl ((List.nodup_append.mp once).2.2 first there first List.mem_cons_self)
  | case3 seen first rest _ ih =>
    have whole : (first :: seen).reverse ++ rest = seen.reverse ++ first :: rest := by simp
    rw [← whole] at once ⊢
    exact ih once

theorem ofPatterns_eq_ok_iff {patterns : List NamePattern} {set : PatternSet} :
    ofPatterns patterns = .ok set ↔ set.patterns = patterns := by
  cases patterns with
  | nil => exact ⟨nofun, fun none => absurd none set.nonempty⟩
  | cons first rest =>
    simp only [ofPatterns, Except.ok.injEq]
    exact ⟨fun same => same ▸ rfl, fun same => by cases set; cases same; rfl⟩

theorem parse_eq_ok_iff {raws : List String} {set : PatternSet} :
    parse raws = .ok set ↔
      ∃ patterns, parseAll raws = .ok patterns ∧ set.patterns = withoutRepeats [] patterns := by
  unfold parse
  cases parseAll raws with
  | error fault => simp
  | ok patterns => simp [ofPatterns_eq_ok_iff]

theorem isRead_of_parseAll {raws : List String} {patterns : List NamePattern}
    (all : parseAll raws = .ok patterns) : ∀ pattern ∈ patterns, pattern.IsRead := by
  rw [parseAll_eq_ok_iff] at all
  induction all with
  | nil => exact List.forall_mem_nil _
  | cons read _ ih => exact List.forall_mem_cons.mpr ⟨⟨_, read⟩, ih⟩

theorem isRead_of_parse {raws : List String} {set : PatternSet} (read : parse raws = .ok set) :
    ∀ pattern ∈ set.patterns, pattern.IsRead := by
  obtain ⟨patterns, all, kept⟩ := parse_eq_ok_iff.mp read
  intro pattern member
  rw [kept, mem_withoutRepeats] at member
  exact isRead_of_parseAll all pattern (member.resolve_left List.not_mem_nil)

theorem nodup_of_parse {raws : List String} {set : PatternSet} (read : parse raws = .ok set) :
    set.patterns.Nodup := by
  obtain ⟨patterns, _, kept⟩ := parse_eq_ok_iff.mp read
  rw [kept]
  exact nodup_withoutRepeats List.nodup_nil

/-- A set is read again from the texts of its patterns. -/
theorem parse_texts {raws : List String} {set : PatternSet} (read : parse raws = .ok set) :
    parse (set.patterns.map NamePattern.text) = .ok set := by
  have again : parseAll (set.patterns.map NamePattern.text) = .ok set.patterns := by
    rw [parseAll_eq_ok_iff, List.forall₂_map_left_iff, List.forall₂_same]
    exact fun pattern member => NamePattern.isRead_iff.mp (isRead_of_parse read pattern member)
  have kept : withoutRepeats [] set.patterns = set.patterns :=
    withoutRepeats_of_nodup (nodup_of_parse read)
  exact parse_eq_ok_iff.mpr ⟨set.patterns, again, kept.symm⟩

/-! ### Listings -/

/-- The pieces of a text between the places where a space follows a comma. -/
def listed : List Char → List (List Char)
  | [] => [[]]
  | ',' :: ' ' :: rest => [] :: listed rest
  | c :: rest =>
    match listed rest with
    | first :: others => (c :: first) :: others
    | [] => [[c]]

def unbracketed? : List Char → Option (List Char)
  | '[' :: rest => if rest.getLast? = some ']' then some rest.dropLast else none
  | _ => none

/-- Read a set from a listing: its brackets off, and every piece a pattern. -/
def ofListing? (listing : String) : Option (Except Fault PatternSet) :=
  (unbracketed? listing.toList).map fun inner => parse ((listed inner).map String.ofList)

theorem listed_of_spaceless {text : List Char} (spaceless : ' ' ∉ text) : listed text = [text] := by
  induction text with
  | nil => rfl
  | cons c rest ih =>
    rw [List.mem_cons, not_or] at spaceless
    rw [listed, ih spaceless.2]
    rintro more rfl rfl
    exact spaceless.2 List.mem_cons_self

theorem listed_append {first : List Char} (spaceless : ' ' ∉ first) (rest : List Char) :
    listed (first ++ ',' :: ' ' :: rest) = first :: listed rest := by
  induction first with
  | nil => rfl
  | cons c more ih =>
    rw [List.mem_cons, not_or] at spaceless
    rw [List.cons_append, listed, ih spaceless.2]
    -- No space follows a comma of the piece: the piece goes on without one, or the next comma is there.
    intro others _ same
    cases more with
    | nil => exact absurd (List.cons.inj same).1 (by decide)
    | cons d _ => exact spaceless.2 (List.mem_cons.mpr (.inl (List.cons.inj same).1.symm))

theorem listed_intercalate {texts : List (List Char)} (some : texts ≠ [])
    (spaceless : ∀ text ∈ texts, ' ' ∉ text) :
    listed (List.intercalate [',', ' '] texts) = texts := by
  induction texts with
  | nil => contradiction
  | cons first rest ih =>
    have head := spaceless first List.mem_cons_self
    cases rest with
    | nil => rw [List.intercalate_singleton, listed_of_spaceless head]
    | cons second others =>
      have tail := ih (List.cons_ne_nil second others) fun text member =>
        spaceless text (List.mem_cons_of_mem first member)
      rw [List.intercalate_cons_cons, List.append_assoc]
      exact (listed_append head _).trans (congrArg (first :: ·) tail)

theorem unbracketed?_brackets (inner : List Char) :
    unbracketed? ('[' :: (inner ++ [']'])) = some inner := by
  simp [unbracketed?]

theorem toList_text (set : PatternSet) :
    set.text.toList =
      '[' :: (List.intercalate [',', ' '] (set.patterns.map (·.text.toList)) ++ [']']) := by
  rw [text, String.toList_append, String.toList_append, String.toList_intercalate, List.map_map]
  rfl

/-- Reading the text of a pattern that was read gives the pattern back, so no two of them share a
text. Reading the listing of a set that was read gives the set back, in its order. -/
theorem texts_read_back :
    (∀ pattern : NamePattern, pattern.IsRead → NamePattern.parse pattern.text = .ok pattern) ∧
      (∀ first second : NamePattern, first.IsRead → second.IsRead → first ≠ second →
        first.text ≠ second.text) ∧
      ∀ raws set, parse raws = .ok set → ofListing? set.text = some (.ok set) := by
  refine ⟨fun _ => NamePattern.isRead_iff.mp, ?_, ?_⟩
  · intro first second read other apart same
    exact apart (NamePattern.eq_of_text read other same)
  · intro raws set read
    have spaceless : ∀ text ∈ set.patterns.map (·.text.toList), ' ' ∉ text := by
      rw [List.forall_mem_map]
      exact fun pattern member => (isRead_of_parse read pattern member).spaceless
    have divided := listed_intercalate (by simpa using set.nonempty) spaceless
    have texts : (set.patterns.map (·.text.toList)).map String.ofList =
        set.patterns.map NamePattern.text := by simp
    rw [ofListing?, toList_text, unbracketed?_brackets, Option.map_some, divided, texts,
      parse_texts read]

/-- Patterns with commas, brackets and colons in them, one of them given twice. -/
theorem texts_read_back_commas :
    let raws := ["a,b", "[x]", "a:::b", "c,", "a::*", "*", "a,b"]
    let patterns := [.exact "a,b", .exact "[x]", .exact "a.:b", .exact "c,", .descendants "a", .any]
    ∃ set : PatternSet, set.patterns = patterns ∧ parse raws = .ok set ∧
      set.text = "[a,b, [x], a.:b, c,, a.*, *]" ∧ ofListing? set.text = some (.ok set) := by
  intro raws patterns
  have read : parse raws = .ok ⟨patterns, by simp [patterns]⟩ := by rfl
  exact ⟨_, rfl, read, by rfl, texts_read_back.2.2 raws _ read⟩

end PatternSet

end EventCapture
