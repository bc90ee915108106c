import EventCapture.Pattern
import Mathlib.Tactic.SplitIfs

/-! Matching follows the hierarchy of names.

Matching compares characters and knows nothing of segments. A name lies below a base when its
segments begin with all the segments of the base and go on; only a dot at the very end of the name
makes a difference, since a segment that is empty is not counted as one. Where texts are kept as
bytes, the same test is done on the bytes: no character is cut in two by it, and no byte is asked for
that is not there.
-/

set_option autoImplicit false

namespace EventCapture

namespace Name

/-- The segments of a logger name, in order from the root. -/
def path (name : String) : List (List Char) := segments name.toList

theorem path_inj {first second : String} : path first = path second ↔ first = second := by
  refine ⟨fun same => String.toList_inj.mp ?_, congrArg path⟩
  rw [← joined_segments first.toList, ← joined_segments second.toList]
  exact congrArg joined same

theorem segments_append (first rest : List Char) :
    segments (first ++ '.' :: rest) = segments first ++ segments rest :=
  Text.pieces_append '.' first rest

/-- A path goes on beyond another just when a dot and more characters follow in the name. -/
theorem segments_below_iff {base name : List Char} :
    segments base <+: segments name ∧ segments base ≠ segments name ↔
      ∃ rest, name = base ++ '.' :: rest := by
  constructor
  · rintro ⟨⟨further, whole⟩, other⟩
    have beyond : further ≠ [] := fun none => other (by rw [← whole, none, List.append_nil])
    refine ⟨joined further, ?_⟩
    rw [← joined_segments name, ← whole, joined,
      Text.joined_append '.' (segments_ne_nil base) beyond]
    exact congrArg (· ++ '.' :: joined further) (joined_segments base)
  · rintro ⟨rest, rfl⟩
    rw [segments_append]
    exact ⟨List.prefix_append _ _, fun same =>
      segments_ne_nil rest (List.self_eq_append_right.mp same)⟩

end Name

namespace NamePattern

theorem isBelow_iff_ne_nil {base name : List Char} :
    isBelow base name = true ↔ ∃ rest, rest ≠ [] ∧ name = base ++ '.' :: rest := by
  rw [isBelow_iff]
  constructor
  · rintro ⟨c, rest, whole⟩
    exact ⟨c :: rest, List.cons_ne_nil c rest, whole⟩
  · rintro ⟨rest, some, whole⟩
    obtain ⟨c, more, rfl⟩ := List.exists_cons_of_ne_nil some
    exact ⟨c, more, whole⟩

/-- Without a dot at its end, a name lies below a base just when its path goes on beyond the path of
the base. -/
theorem isBelow_iff_path {base name : List Char}
    (filled : ∀ segment ∈ Name.segments name, segment ≠ []) :
    isBelow base name = true ↔
      Name.segments base <+: Name.segments name ∧ Name.segments base ≠ Name.segments name := by
  rw [isBelow_iff_ne_nil, Name.segments_below_iff]
  refine exists_congr fun rest => and_iff_right_of_imp ?_
  rintro rfl rfl
  rw [Name.segments_append] at filled
  exact filled [] (List.mem_append_right _ (List.mem_singleton_self [])) rfl

/-- What lies below a base lies below everything that the base lies at or below. -/
theorem isBelow_of_prefix {upper base name : List Char}
    (above : Name.segments upper <+: Name.segments base) (below : isBelow base name = true) :
    isBelow upper name = true := by
  by_cases same : Name.segments upper = Name.segments base
  · rwa [← Name.joined_segments upper, same, Name.joined_segments]
  · obtain ⟨between, rfl⟩ := Name.segments_below_iff.mp ⟨above, same⟩
    obtain ⟨rest, _, rfl⟩ := isBelow_iff_ne_nil.mp below
    exact isBelow_iff_ne_nil.mpr ⟨between ++ '.' :: rest, by simp, by simp⟩

/-! ### Bytes -/

/-- The bytes of characters. -/
def bytes (text : List Char) : List UInt8 := text.flatMap String.utf8EncodeChar

/-- The test for a name below a base, on the bytes of both. There is no answer if a byte is asked for
that the name does not have. -/
def bytesBelow? (base name : List UInt8) : Option Bool :=
  if base.length + 1 < name.length && base.isPrefixOf name then
    name[base.length]?.map (· == '.'.toUInt8)
  else some false

/-- No byte of one character is the first of another, so bytes begin with bytes just when characters
begin with characters. -/
theorem bytes_prefix_iff {base name : List Char} : bytes base <+: bytes name ↔ base <+: name := by
  constructor
  · rintro ⟨rest, whole⟩
    refine List.isPrefix_of_utf8Encode_append_eq_utf8Encode rest.toByteArray ?_
    rw [List.utf8Encode, List.utf8Encode, ← List.toByteArray_append]
    exact congrArg List.toByteArray whole
  · rintro ⟨rest, rfl⟩
    exact ⟨bytes rest, List.flatMap_append.symm⟩

theorem bytes_append (first rest : List Char) : bytes (first ++ rest) = bytes first ++ bytes rest :=
  List.flatMap_append

/-- Only a dot begins with the byte of a dot, since the other characters of one byte are told apart
by it and all longer ones begin higher. -/
theorem head?_utf8EncodeChar {c : Char} :
    (String.utf8EncodeChar c).head? = some '.'.toUInt8 ↔ c = '.' := by
  constructor
  · intro first
    have code : (String.utf8EncodeChar c).head?.map UInt8.toNat = some 46 := by rw [first]; rfl
    have small : c.val.toNat = 46 := by
      dsimp only [String.utf8EncodeChar] at code
      split_ifs at code <;>
        simp only [List.head?_cons, Option.map_some, Option.some.injEq, UInt8.toNat_ofNat'] at code <;>
        omega
    exact Char.ext (UInt32.toNat_inj.mp small)
  · rintro rfl
    rfl

theorem isBelow_append_iff {base rest : List Char} :
    isBelow base (base ++ rest) = true ↔ ∃ more, more ≠ [] ∧ rest = '.' :: more := by
  simp only [isBelow_iff_ne_nil, List.append_cancel_left_eq]

/-- The test behind the base, where name and base agree: there is a dot, and something after it. -/
theorem bytes_behind (rest : List Char) :
    (if 1 < (bytes rest).length then (bytes rest).head?.map (· == '.'.toUInt8) else some false) =
      some (isBelow [] rest) := by
  cases rest with
  | nil => rfl
  | cons c more =>
    by_cases dot : c = '.'
    · subst dot
      cases more with
      | nil => rfl
      | cons d others =>
        have long : 1 < (bytes ('.' :: d :: others)).length := by
          have some := List.length_pos_iff.mpr (String.utf8EncodeChar_ne_nil (c := d))
          simp only [bytes, List.flatMap_cons, List.length_append]
          have one : (String.utf8EncodeChar '.').length = 1 := rfl
          omega
        rw [if_pos long]
        rfl
    · have outside : isBelow [] (c :: more) = false := by
        rw [Bool.eq_false_iff, Ne, isBelow_iff_ne_nil]
        rintro ⟨_, _, same⟩
        exact dot (List.cons.inj same).1
      obtain ⟨byte, others, encoded⟩ :=
        List.exists_cons_of_ne_nil (String.utf8EncodeChar_ne_nil (c := c))
      have other : (byte == '.'.toUInt8) = false := by
        rw [beq_eq_false_iff_ne]
        rintro rfl
        exact dot (head?_utf8EncodeChar.mp (by rw [encoded, List.head?_cons]))
      have first : (bytes (c :: more)).head? = some byte := by
        rw [bytes, List.flatMap_cons, encoded]
        rfl
      rw [first, outside, Option.map_some, other, ite_self]

/-- The test on bytes always has an answer, and it is that of the test on characters. -/
theorem bytesBelow?_eq (base name : List Char) :
    bytesBelow? (bytes base) (bytes name) = some (isBelow base name) := by
  unfold bytesBelow?
  by_cases within : base <+: name
  case neg =>
    have apart : (bytes base).isPrefixOf (bytes name) = false := by
      rw [Bool.eq_false_iff, Ne, List.isPrefixOf_iff_prefix, bytes_prefix_iff]
      exact within
    have outside : isBelow base name = false := by
      rw [Bool.eq_false_iff, Ne, isBelow_iff_ne_nil]
      rintro ⟨rest, _, rfl⟩
      exact within (List.prefix_append _ _)
    rw [apart, outside, Bool.and_false, if_neg Bool.false_ne_true]
  case pos =>
    obtain ⟨rest, rfl⟩ := within
    have starts : (bytes base).isPrefixOf (bytes base ++ bytes rest) = true :=
      List.isPrefixOf_iff_prefix.mpr (List.prefix_append _ _)
    have behind : isBelow base (base ++ rest) = isBelow [] rest := by
      rw [Bool.eq_iff_iff, isBelow_append_iff, isBelow_iff_ne_nil]
      rfl
    rw [bytes_append, starts, behind, ← bytes_behind, Bool.and_true,
      List.getElem?_append_right (Nat.le_refl _), Nat.sub_self, ← List.head?_eq_getElem?,
      List.length_append]
    simp only [decide_eq_true_eq, Nat.add_lt_add_iff_left]

/-! ### Patterns -/

theorem matchesName_exact_iff {whole name : String} :
    matchesName (.exact whole) name = true ↔ name = whole := beq_iff_eq

/-- Every pattern matches what it stands for in the hierarchy: all names, the one with the same path,
or those whose names go on behind the base with a dot and more. The last are, among the names without
an empty segment, those whose path goes on beyond the path of the base. So no base and what lies
below it have a name in common, and what lies below a base lies below all that the base lies in. -/
theorem matching_follows_hierarchy (name : String) :
    matchesName .any name = true ∧
      (∀ whole, matchesName (.exact whole) name = true ↔ Name.path name = Name.path whole) ∧
      ∀ base,
        (matchesName (.descendants base) name = true ↔
            ∃ rest, rest ≠ "" ∧ name = base ++ "." ++ rest) ∧
          bytesBelow? (bytes base.toList) (bytes name.toList) =
            some (matchesName (.descendants base) name) ∧
          ((∀ segment ∈ Name.path name, segment ≠ []) →
            (matchesName (.descendants base) name = true ↔
              Name.path base <+: Name.path name ∧ Name.path base ≠ Name.path name)) ∧
          ¬ (matchesName (.exact base) name = true ∧ matchesName (.descendants base) name = true) ∧
          (matchesName (.descendants base) name = true →
            ∀ upper, Name.path upper <+: Name.path base →
              matchesName (.descendants upper) name = true) := by
  refine ⟨rfl, fun whole => ?_, fun base => ⟨?_, bytesBelow?_eq _ _, isBelow_iff_path, ?_,
    fun below upper above => isBelow_of_prefix above below⟩⟩
  · rw [matchesName_exact_iff, Name.path_inj]
  · rw [matchesName, isBelow_iff_ne_nil]
    constructor
    · rintro ⟨rest, some, whole⟩
      refine ⟨String.ofList rest, by simpa using some, String.toList_inj.mp ?_⟩
      simp [whole]
    · rintro ⟨rest, some, rfl⟩
      exact ⟨rest.toList, by simpa using some, by simp⟩
  · rintro ⟨same, below⟩
    obtain rfl := matchesName_exact_iff.mp same
    obtain ⟨rest, _, longer⟩ := isBelow_iff_ne_nil.mp below
    exact absurd (List.self_eq_append_right.mp longer) (List.cons_ne_nil _ _)

/-- A base and a name of characters of several bytes; a sibling that goes on without a dot, and a
name that ends in one, stay out. -/
theorem matching_follows_hierarchy_siblings :
    (∀ segment ∈ Name.path "größe.é.x", segment ≠ []) ∧
      matchesName (.descendants "größe.é") "größe.é.x" = true ∧
      matchesName (.descendants "größe") "größe.é.x" = true ∧
      matchesName (.descendants "größe") "größer.x" = false ∧
      matchesName (.descendants "größe") "größe." = false := by
  obtain ⟨_, _, below⟩ := matching_follows_hierarchy "größe.é.x"
  have filled : ∀ segment ∈ Name.path "größe.é.x", segment ≠ [] := by decide
  have inside : matchesName (.descendants "größe.é") "größe.é.x" = true :=
    ((below "größe.é").2.2.1 filled).mpr (by decide)
  exact ⟨filled, inside, (below "größe.é").2.2.2.2 inside "größe" (by decide), by decide, by decide⟩

end NamePattern

end EventCapture
