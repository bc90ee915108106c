import EventCapture.Proofs.Openings
import EventCapture.Proofs.PatternTexts
import Mathlib.Data.List.DropRight

/-! Overrides from the environment.

A variable lists patterns between commas. Blanks around an item do not count, and neither do items
that are nothing but blanks. So one list is written in many ways, and reading is described by the
relation between a list and the values that list it: every value lists what is read from it, and
nothing else that consists of items. A pattern without a comma is an item, because no pattern holds
a blank, so a set of such patterns is read back from every way to list it.
-/

set_option autoImplicit false

namespace EventCapture

namespace Text

/-! ### Blanks around a text -/

/-- A text neither begins nor ends with a blank. -/
structure Unpadded (text : List Char) : Prop where
  first : ∀ c ∈ text.head?, isBlank c = false
  last : ∀ c ∈ text.getLast?, isBlank c = false

/-- There is nothing but blanks around a text. -/
def Padded (text whole : List Char) : Prop :=
  ∃ before after, whole = before ++ text ++ after ∧ (∀ c ∈ before, isBlank c = true) ∧
    ∀ c ∈ after, isBlank c = true

theorem unpadded_of_unblank {text : List Char} (unblank : ∀ c ∈ text, isBlank c = false) :
    Unpadded text where
  first c leading := unblank c (List.mem_of_mem_head? leading)
  last c ending := unblank c (List.mem_of_getLast? ending)

theorem dropWhile_blanks {blanks rest : List Char} (blank : ∀ c ∈ blanks, isBlank c = true)
    (first : ∀ c ∈ rest.head?, isBlank c = false) : (blanks ++ rest).dropWhile isBlank = rest := by
  rw [List.dropWhile_append_of_pos blank]
  cases rest with
  | nil => rfl
  | cons c others =>
    have unblank : isBlank c = false := first c rfl
    exact List.dropWhile_cons_of_neg (by simp [unblank])

theorem trimEnd_blanks {text blanks : List Char} (blank : ∀ c ∈ blanks, isBlank c = true)
    (last : ∀ c ∈ text.getLast?, isBlank c = false) : trimEnd (text ++ blanks) = text := by
  have turned : (text ++ blanks).reverse.dropWhile isBlank = text.reverse := by
    rw [List.reverse_append]
    exact dropWhile_blanks (by simpa using blank) (by simpa using last)
  rw [trimEnd, turned, List.reverse_reverse]

theorem trimmed_of_padded {text whole : List Char} (unpadded : Unpadded text)
    (padded : Padded text whole) : trimmed whole = text := by
  obtain ⟨before, after, rfl, front, back⟩ := padded
  cases text with
  | nil =>
    -- Where there is no text, the blanks before it do not end.
    have blank : (before ++ [] ++ after).dropWhile isBlank = [] := by
      rw [List.dropWhile_eq_nil_iff, List.append_nil, List.forall_mem_append]
      exact ⟨front, back⟩
    rw [trimmed, blank]
    rfl
  | cons c rest =>
    have behind : (before ++ (c :: rest ++ after)).dropWhile isBlank = c :: rest ++ after :=
      dropWhile_blanks front unpadded.first
    rw [trimmed, List.append_assoc, behind]
    exact trimEnd_blanks back unpadded.last

theorem unpadded_trimmed (whole : List Char) : Unpadded (trimmed whole) where
  first := by
    intro c leading
    obtain ⟨tail, parts⟩ := List.rdropWhile_prefix isBlank (whole.dropWhile isBlank)
    have begun : (whole.dropWhile isBlank).head? = some c := by
      rw [← parts]
      exact List.mem_head?_append_of_mem_head? leading
    have unblank := List.head?_dropWhile_not isBlank whole
    rwa [begun] at unblank
  last := by
    intro c ending
    obtain ⟨some, rfl⟩ := List.mem_getLast?_eq_getLast ending
    exact eq_false_of_ne_true (List.rdropWhile_last_not isBlank _ some)

theorem padded_trimmed (whole : List Char) : Padded (trimmed whole) whole := by
  refine ⟨whole.takeWhile isBlank, (whole.dropWhile isBlank).rtakeWhile isBlank, ?_,
    fun _ => List.mem_takeWhile_imp, fun _ => List.mem_rtakeWhile_imp⟩
  have rest : trimmed whole ++ (whole.dropWhile isBlank).rtakeWhile isBlank =
      whole.dropWhile isBlank := List.rdropWhile_append_rtakeWhile
  rw [List.append_assoc, rest, List.takeWhile_append_dropWhile]

theorem Padded.subset {text whole : List Char} (padded : Padded text whole) : text ⊆ whole := by
  obtain ⟨before, after, rfl, _, _⟩ := padded
  intro c member
  exact List.mem_append_left _ (List.mem_append_right _ member)

end Text

namespace Settings

/-! ### Lists between commas -/

/-- Pieces hold texts, each in a piece of its own with nothing but blanks around it, in their order,
and all other pieces are blank. -/
inductive Spread : List (List Char) → List (List Char) → Prop where
  | done : Spread [] []
  | blank {texts pieces : List (List Char)} {piece : List Char}
      (empty : ∀ c ∈ piece, Text.isBlank c = true) (rest : Spread texts pieces) :
      Spread texts (piece :: pieces)
  | item {texts pieces : List (List Char)} {text piece : List Char}
      (padded : Text.Padded text piece) (rest : Spread texts pieces) :
      Spread (text :: texts) (piece :: pieces)

/-- A value lists texts: it joins them by commas, with blanks around them and with blank items
among them. -/
def IsListing (texts : List String) (value : String) : Prop :=
  ∃ pieces, Spread (texts.map String.toList) pieces ∧ value.toList = Text.joined ',' pieces

/-- What can stand between commas for itself. -/
structure IsItem (text : String) : Prop where
  nonempty : text ≠ ""
  undivided : ',' ∉ text.toList
  unpadded : Text.Unpadded text.toList

/-- The texts in pieces, without the blanks around them. -/
def kept (pieces : List (List Char)) : List (List Char) :=
  (pieces.map Text.trimmed).filter (!·.isEmpty)

theorem toList_items (value : String) :
    (items value).map String.toList = kept (Text.pieces ',' value.toList) := by
  simp [items, kept]

theorem kept_cons_of_blank {piece : List Char} (empty : Text.trimmed piece = [])
    (pieces : List (List Char)) : kept (piece :: pieces) = kept pieces := by
  simp [kept, empty]

theorem kept_cons_of_ne_nil {piece : List Char} (some : Text.trimmed piece ≠ [])
    (pieces : List (List Char)) : kept (piece :: pieces) = Text.trimmed piece :: kept pieces := by
  simp [kept, some]

theorem spread_kept (pieces : List (List Char)) : Spread (kept pieces) pieces := by
  induction pieces with
  | nil => exact .done
  | cons piece rest ih =>
    have padded := Text.padded_trimmed piece
    by_cases empty : Text.trimmed piece = []
    · rw [kept_cons_of_blank empty]
      rw [empty] at padded
      obtain ⟨before, after, whole, front, back⟩ := padded
      refine .blank ?_ ih
      rw [whole, List.append_nil, List.forall_mem_append]
      exact ⟨front, back⟩
    · rw [kept_cons_of_ne_nil empty]
      exact .item padded ih

theorem Spread.kept_eq {texts pieces : List (List Char)} (spread : Spread texts pieces)
    (fit : ∀ text ∈ texts, text ≠ [] ∧ Text.Unpadded text) : kept pieces = texts := by
  induction spread with
  | done => rfl
  | @blank texts pieces piece empty _ ih =>
    have padded : Text.Padded [] piece := ⟨piece, [], by simp, empty, List.forall_mem_nil _⟩
    have unpadded : Text.Unpadded [] := ⟨nofun, nofun⟩
    rw [kept_cons_of_blank (Text.trimmed_of_padded unpadded padded), ih fit]
  | @item texts pieces text piece padded _ ih =>
    obtain ⟨⟨some, unpadded⟩, others⟩ := List.forall_mem_cons.mp fit
    have there := Text.trimmed_of_padded unpadded padded
    rw [kept_cons_of_ne_nil (by rwa [there]), there, ih others]

/-- Blanks are no commas, so pieces with texts that hold none are not divided any further. -/
theorem Spread.undivided {texts pieces : List (List Char)} (spread : Spread texts pieces)
    (undivided : ∀ text ∈ texts, ',' ∉ text) : ∀ piece ∈ pieces, ',' ∉ piece := by
  have comma {blanks : List Char} (blank : ∀ c ∈ blanks, Text.isBlank c = true) : ',' ∉ blanks :=
    fun member => absurd (blank ',' member) (by decide)
  induction spread with
  | done => exact List.forall_mem_nil _
  | blank empty _ ih => exact List.forall_mem_cons.mpr ⟨comma empty, ih undivided⟩
  | item padded _ ih =>
    obtain ⟨first, others⟩ := List.forall_mem_cons.mp undivided
    obtain ⟨before, after, rfl, front, back⟩ := padded
    refine List.forall_mem_cons.mpr ⟨?_, ih others⟩
    simp only [List.mem_append, not_or]
    exact ⟨⟨comma front, first⟩, comma back⟩

theorem isItem_of_mem_items {value text : String} (member : text ∈ items value) : IsItem text := by
  simp only [items, List.mem_map, List.mem_filter] at member
  obtain ⟨_, ⟨⟨piece, there, rfl⟩, some⟩, rfl⟩ := member
  refine ⟨by simpa using some, ?_, ?_⟩
  · rw [String.toList_ofList]
    exact fun comma => Text.notMem_of_mem_pieces there ((Text.padded_trimmed piece).subset comma)
  · rw [String.toList_ofList]
    exact Text.unpadded_trimmed piece

theorem isListing_items (value : String) : IsListing (items value) value := by
  refine ⟨Text.pieces ',' value.toList, ?_, (Text.joined_pieces ',' value.toList).symm⟩
  rw [toList_items]
  exact spread_kept _

/-- No pieces and one empty piece are joined to the same value, and neither holds an item. -/
theorem kept_pieces_joined {pieces : List (List Char)} (undivided : ∀ piece ∈ pieces, ',' ∉ piece) :
    kept (Text.pieces ',' (Text.joined ',' pieces)) = kept pieces := by
  by_cases none : pieces = []
  · rw [none]
    rfl
  · have alone : pieces.flatMap (Text.pieces ',') = pieces.flatMap fun piece => [piece] :=
      List.flatMap_congr fun piece member => Text.pieces_of_notMem (undivided piece member)
    rw [Text.pieces_joined ',' none, alone, List.flatMap_singleton']

/-- What is read from a value is the one list of items that the value lists. -/
theorem items_eq_iff {value : String} {texts : List String} :
    items value = texts ↔ (∀ text ∈ texts, IsItem text) ∧ IsListing texts value := by
  constructor
  · rintro rfl
    exact ⟨fun _ => isItem_of_mem_items, isListing_items value⟩
  · rintro ⟨fit, pieces, spread, whole⟩
    have undivided : ∀ text ∈ texts.map String.toList, ',' ∉ text :=
      List.forall_mem_map.mpr fun text member => (fit text member).undivided
    have read : kept pieces = texts.map String.toList := by
      refine spread.kept_eq (List.forall_mem_map.mpr fun text member => ?_)
      exact ⟨by simpa using (fit text member).nonempty, (fit text member).unpadded⟩
    refine List.map_injective_iff.mpr (fun _ _ => String.toList_inj.mp) ?_
    rw [toList_items, whole, kept_pieces_joined (spread.undivided undivided), read]

theorem isItem_text {pattern : NamePattern} (read : pattern.IsRead)
    (undivided : ',' ∉ pattern.text.toList) : IsItem pattern.text := by
  obtain ⟨grammatical, _⟩ := NamePattern.parse_eq_ok_iff.mp (NamePattern.isRead_iff.mp read)
  exact ⟨grammatical.nonempty, undivided, Text.unpadded_of_unblank grammatical.unblank⟩

/-! ### Overriding -/

variable {settings : Settings} {lookup : String → Option String} {value : String}

/-- A lookup that knows of one name alone. -/
def only (name : String) (lookup : String → Option String) : String → Option String :=
  fun other => if other = name then lookup other else none

theorem patterns_overridden (settings : Settings) (lookup : String → Option String) :
    (settings.overridden lookup).patterns =
      ((lookup Schema.patternsVariable).map items).getD settings.patterns := by
  unfold overridden
  cases lookup Schema.patternsVariable <;> rfl

theorem minimumLevel_overridden (settings : Settings) (lookup : String → Option String) :
    (settings.overridden lookup).minimumLevel =
      ((lookup Schema.levelVariable).map Text.trim).getD settings.minimumLevel := by
  unfold overridden
  cases lookup Schema.levelVariable <;> rfl

theorem patterns_overridden_of_set (set : lookup Schema.patternsVariable = some value) :
    (settings.overridden lookup).patterns = items value := by
  rw [patterns_overridden, set]
  rfl

theorem overridden_overridden (settings : Settings) (lookup : String → Option String) :
    (settings.overridden lookup).overridden lookup = settings.overridden lookup := by
  unfold overridden
  cases lookup Schema.patternsVariable <;> cases lookup Schema.levelVariable <;> rfl

/-- One variable after the other is both at once, whichever comes first. -/
theorem overridden_only (settings : Settings) (lookup : String → Option String) :
    (settings.overridden (only Schema.patternsVariable lookup)).overridden
        (only Schema.levelVariable lookup) = settings.overridden lookup ∧
      (settings.overridden (only Schema.levelVariable lookup)).overridden
        (only Schema.patternsVariable lookup) = settings.overridden lookup := by
  have apart : Schema.patternsVariable ≠ Schema.levelVariable := by decide
  simp [overridden, only, apart, apart.symm]

/-- The patterns of a set, none of which holds a comma, are read from every value that lists them,
and the set is read from them again. -/
theorem parse_overridden (settings : Settings) {raws : List String} {set : PatternSet}
    (read : PatternSet.parse raws = .ok set)
    (undivided : ∀ pattern ∈ set.patterns, ',' ∉ pattern.text.toList)
    (there : lookup Schema.patternsVariable = some value)
    (listing : IsListing (set.patterns.map NamePattern.text) value) :
    (settings.overridden lookup).patterns = set.patterns.map NamePattern.text ∧
      PatternSet.parse (settings.overridden lookup).patterns = .ok set := by
  have fit : ∀ text ∈ set.patterns.map NamePattern.text, IsItem text := by
    refine List.forall_mem_map.mpr fun pattern member => ?_
    exact isItem_text (PatternSet.isRead_of_parse read pattern member) (undivided pattern member)
  have decoded := items_eq_iff.mpr ⟨fit, listing⟩
  rw [patterns_overridden_of_set there, decoded]
  exact ⟨rfl, PatternSet.parse_texts read⟩

/-- Overriding reads back what a value lists, and touches nothing else. However the patterns of a
set are listed, these are the patterns afterwards, and settings with a known level and a timeout
are valid and ask for that set. Whatever a variable holds, the patterns are items and the value
lists them. A variable that is not set leaves its field as it was, no other field changes, to
override again changes nothing, and each variable alone decides on its own field. -/
theorem overridden_reads_listings (settings : Settings) :
    (∀ raws set lookup value,
        PatternSet.parse raws = .ok set →
        (∀ pattern ∈ set.patterns, ',' ∉ pattern.text.toList) →
        lookup Schema.patternsVariable = some value →
        IsListing (set.patterns.map NamePattern.text) value →
        let later := settings.overridden lookup
        later.patterns = set.patterns.map NamePattern.text ∧
          ∀ least, Level.parse later.minimumLevel = .ok least → settings.wait.timeout ≠ 0 →
            later.validate = .ok (set, least)) ∧
      ∀ lookup,
        let later := settings.overridden lookup
        (∀ value, lookup Schema.patternsVariable = some value →
            (∀ text ∈ later.patterns, IsItem text) ∧ IsListing later.patterns value) ∧
          (lookup Schema.patternsVariable = none → later.patterns = settings.patterns) ∧
          (lookup Schema.levelVariable = none → later.minimumLevel = settings.minimumLevel) ∧
          later.wait = settings.wait ∧ later.renderLimit = settings.renderLimit ∧
          later.overridden lookup = later ∧
          (∀ other, other Schema.patternsVariable = lookup Schema.patternsVariable →
            (settings.overridden other).patterns = later.patterns) ∧
          (∀ other, other Schema.levelVariable = lookup Schema.levelVariable →
            (settings.overridden other).minimumLevel = later.minimumLevel) ∧
          (settings.overridden (only Schema.patternsVariable lookup)).overridden
            (only Schema.levelVariable lookup) = later ∧
          (settings.overridden (only Schema.levelVariable lookup)).overridden
            (only Schema.patternsVariable lookup) = later := by
  constructor
  · intro raws set lookup value read undivided there listing later
    obtain ⟨patterns, again⟩ := parse_overridden settings read undivided there listing
    exact ⟨patterns, fun least known lasting => validate_of_asksFor ⟨again, known, lasting⟩⟩
  · intro lookup later
    refine ⟨fun value there => ?_, fun unset => ?_, fun unset => ?_, rfl, rfl,
      overridden_overridden settings lookup, fun other same => ?_, fun other same => ?_,
      overridden_only settings lookup⟩
    · exact items_eq_iff.mp (patterns_overridden_of_set there).symm
    · rw [patterns_overridden, unset]
      rfl
    · rw [minimumLevel_overridden, unset]
      rfl
    · rw [patterns_overridden, patterns_overridden, same]
    · rw [minimumLevel_overridden, minimumLevel_overridden, same]

/-- An environment with two patterns, in wide blanks and among items that are blank, and a level. -/
def paddedEnvironment (name : String) : Option String :=
  if name = Schema.patternsVariable then some " ,\u2003app.*\t,, \u00a0,db\u2003"
  else if name = Schema.levelVariable then some " Warning\n"
  else none

theorem overridden_reads_listings_padded :
    let raws := ["app::*", "db", "app.*"]
    let settings := { usual with patterns := ["a, b"] }
    let later := settings.overridden paddedEnvironment
    ∃ set, PatternSet.parse raws = .ok set ∧
      (∀ pattern ∈ set.patterns, ',' ∉ pattern.text.toList) ∧
      IsListing (set.patterns.map NamePattern.text) " ,\u2003app.*\t,, \u00a0,db\u2003" ∧
      later.patterns = ["app.*", "db"] ∧ later.validate = .ok (set, .warn) ∧
      (∀ text ∈ later.patterns, IsItem text) := by
  intro raws settings later
  have read : PatternSet.parse raws = .ok ⟨[.descendants "app", .exact "db"], by simp⟩ := by rfl
  have undivided : ∀ pattern ∈ [NamePattern.descendants "app", .exact "db"],
      ',' ∉ pattern.text.toList := by decide
  have listing : IsListing ["app.*", "db"] " ,\u2003app.*\t,, \u00a0,db\u2003" :=
    isListing_items " ,\u2003app.*\t,, \u00a0,db\u2003"
  obtain ⟨decoded, always⟩ := overridden_reads_listings settings
  obtain ⟨patterns, valid⟩ := decoded raws _ paddedEnvironment _ read undivided rfl listing
  exact ⟨_, read, undivided, listing, patterns, valid .warn (by decide +kernel) (by decide),
    ((always paddedEnvironment).1 _ rfl).1⟩

end Settings

end EventCapture
