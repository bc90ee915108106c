import EventCapture.ErrorChain
import Mathlib.Logic.Function.Iterate
import Mathlib.Data.List.TakeWhile
import Mathlib.Order.Basic

/-! Chains of causes, as copies of the sources of an error.

The sources of an error may end or go on for ever, in a circle for instance. They are numbered from
the error itself, so that the copy can be compared with them place by place. Up to the longest
length that is allowed nothing is left out, added or put elsewhere.
-/

set_option autoImplicit false

namespace EventCapture

namespace ErrorChain

/-! ### Kinds -/

/-- The longest leading run of characters of a class. -/
structure LongestRun (member : Char → Bool) (text run : List Char) : Prop where
  leading : run <+: text
  inside : ∀ c ∈ run, member c = true
  longest : ∀ other, other <+: text → (∀ c ∈ other, member c = true) → other <+: run

theorem longestRun_takeWhile (member : Char → Bool) (text : List Char) :
    LongestRun member text (text.takeWhile member) where
  leading := List.takeWhile_prefix member
  inside := fun _ => List.mem_takeWhile_imp
  longest := by
    rintro other ⟨rest, rfl⟩ inside
    rw [List.takeWhile_append_of_pos inside]
    exact List.prefix_append other _

/-- An entry shows an error as it shows itself: its message to users, and the identifier that its
developer's form begins with, if it begins with one. -/
structure Shows (face : ErrorFace) (entry : ErrorEntry) : Prop where
  message : entry.message = face.display
  kind : ∃ run, LongestRun (fun c => Text.isAlphanumeric c || c == '_') face.debug.toList run ∧
    entry.kind = if run = [] ∨ run.head?.any Char.isDigit = true then "Error" else String.ofList run
  named : entry.kind ≠ ""

theorem isNoKind_iff (run : List Char) :
    isNoKind run = true ↔ run = [] ∨ run.head?.any Char.isDigit = true := by
  cases run <;> simp [isNoKind]

theorem kindOf_ne_empty (debug : String) : kindOf debug ≠ "" := by
  unfold kindOf
  dsimp only
  split
  · decide
  · next kind =>
    intro empty
    rw [String.ofList_eq_empty_iff] at empty
    exact kind ((isNoKind_iff _).mpr (.inl empty))

theorem shows_entryOf (face : ErrorFace) : Shows face (entryOf face) where
  message := rfl
  kind :=
    have run := longestRun_takeWhile (fun c => Text.isAlphanumeric c || c == '_') face.debug.toList
    ⟨_, run, if_congr (isNoKind_iff _) rfl rfl⟩
  named := kindOf_ne_empty face.debug

/-! ### Sources -/

section

variable {ε : Type} (face : ε → ErrorFace) (source : ε → Option ε)

/-- The error at a place in the chain of sources: first the error itself, then its source, then the
source of that. -/
def sourceAt (error : ε) (place : Nat) : Option ε := (·.bind source)^[place] (some error)

theorem sourceAt_of_ended {error : ε} {place : Nat} (ended : sourceAt source error place = none)
    {later : Nat} (after : place ≤ later) : sourceAt source error later = none := by
  obtain ⟨more, rfl⟩ := Nat.exists_eq_add_of_le' after
  unfold sourceAt at ended ⊢
  rw [Function.iterate_add_apply, ended]
  exact Function.iterate_fixed rfl more

/-- The errors of a chain of sources are so many. -/
structure EndsAfter (error : ε) (count : Nat) : Prop where
  ended : sourceAt source error count = none
  goesOn : ∀ place < count, (sourceAt source error place).isSome = true

theorem EndsAfter.isSome_iff {source : ε → Option ε} {error : ε} {count : Nat}
    (ends : EndsAfter source error count) (place : Nat) :
    (sourceAt source error place).isSome = true ↔ place < count := by
  refine ⟨fun there => Nat.lt_of_not_le fun beyond => ?_, ends.goesOn place⟩
  rw [sourceAt_of_ended source ends.ended beyond] at there
  contradiction

theorem getElem?_entriesFrom (limit : Nat) (error : Option ε) (place : Nat) :
    (entriesFrom face source limit error)[place]? =
      if place < limit then ((·.bind source)^[place] error).map fun e => entryOf (face e)
      else none := by
  induction limit generalizing error place with
  | zero => rfl
  | succ limit ih =>
    cases error with
    | none =>
      -- From where the sources end there is nothing at any place.
      rw [entriesFrom, Function.iterate_fixed rfl]
      simp
    | some error =>
      cases place with
      | zero => rfl
      | succ place =>
        rw [entriesFrom, List.getElem?_cons_succ, ih, Function.iterate_succ_apply]
        simp only [Nat.succ_lt_succ_iff, Option.bind_some]

/-- A chain holds an error wherever the sources have one, up to the longest length. -/
theorem getElem?_entries_ofError (error : ε) (place : Nat) :
    (ofError face source error).entries[place]? =
      if place < longest then (sourceAt source error place).map fun e => entryOf (face e)
      else none :=
  getElem?_entriesFrom face source longest (some error) place

theorem lt_length_entries_iff (error : ε) (place : Nat) :
    place < (ofError face source error).entries.length ↔
      place < longest ∧ (sourceAt source error place).isSome = true := by
  have bound := isSome_getElem? (ofError face source error).entries place
  rw [getElem?_entries_ofError] at bound
  rw [← bound]
  split <;> simp [*]

end

/-! ### Texts -/

def entryText (entry : ErrorEntry) : String := entry.kind ++ ": " ++ entry.message

/-- The parentheses of all causes are closed at the end. -/
theorem text_eq (chain : ErrorChain) :
    chain.text = entryText chain.head ++
      String.join (chain.causes.map fun cause => " (caused by " ++ entryText cause) ++
        String.ofList (List.replicate chain.causes.length ')') := by
  obtain ⟨head, causes⟩ := chain
  unfold text
  induction causes generalizing head with
  | nil => simp [textFrom, entryText]
  | cons cause rest ih =>
    rw [textFrom, ih]
    simp [List.replicate_succ', String.join_cons, String.append_assoc, entryText]

/-- An error is copied with its sources in their order: all of them, or as many as fit where they
are more or never end. Every entry shows its own error, and the text has the causes in the same
order, each inside the parentheses of the one before. -/
theorem ofError_faithful {ε : Type} (face : ε → ErrorFace) (source : ε → Option ε) (error : ε) :
    let chain := ofError face source error
    (∀ count, EndsAfter source error count → chain.entries.length = min count 32) ∧
      ((∀ place, (sourceAt source error place).isSome = true) → chain.entries.length = 32) ∧
      (∀ place entry, chain.entries[place]? = some entry →
        ∃ e, sourceAt source error place = some e ∧ Shows (face e) entry) ∧
      chain.text = entryText chain.head ++
        String.join (chain.causes.map fun cause => " (caused by " ++ entryText cause) ++
          String.ofList (List.replicate chain.causes.length ')') := by
  intro chain
  refine ⟨fun count ends => ?_, fun endless => ?_, fun place entry there => ?_, chain.text_eq⟩
  · refine eq_of_forall_lt_iff fun place => ?_
    rw [lt_length_entries_iff, ends.isSome_iff, Nat.lt_min, and_comm]
    rfl
  · refine eq_of_forall_lt_iff fun place => ?_
    rw [lt_length_entries_iff, and_iff_left (endless place)]
    rfl
  · rw [getElem?_entries_ofError] at there
    split at there
    · obtain ⟨e, found, rfl⟩ := Option.map_eq_some_iff.mp there
      exact ⟨e, found, shows_entryOf (face e)⟩
    · contradiction

/-- Errors that are numbered, and whose sources count down to zero. -/
def numbered (error : Nat) : ErrorFace :=
  ⟨"Layer_" ++ toString error ++ " \x7b .. \x7d", "layer " ++ toString error⟩

def countdown : Nat → Option Nat
  | 0 => none
  | n + 1 => some n

/-- Thirty-one errors are copied, of thirty-three the last is left out, and a circle is cut. -/
theorem ofError_faithful_countdown :
    EndsAfter countdown 30 31 ∧ (ofError numbered countdown 30).entries.length = 31 ∧
      EndsAfter countdown 32 33 ∧ (ofError numbered countdown 32).entries.length = 32 ∧
      (∃ e, sourceAt countdown 32 31 = some e ∧ Shows (numbered e) (entryOf (numbered 1))) ∧
      (ofError numbered (fun _ => some 0) 0).entries.length = 32 := by
  have short : EndsAfter countdown 30 31 := ⟨by decide, by decide⟩
  have long : EndsAfter countdown 32 33 := ⟨by decide, by decide⟩
  have circle (place : Nat) : sourceAt (fun _ => some 0) 0 place = some 0 :=
    Function.iterate_fixed rfl place
  have last : (ofError numbered countdown 32).entries[31]? = some (entryOf (numbered 1)) := rfl
  obtain ⟨endsShort, _, _, _⟩ := ofError_faithful numbered countdown 30
  obtain ⟨endsLong, _, shows, _⟩ := ofError_faithful numbered countdown 32
  obtain ⟨_, endless, _, _⟩ := ofError_faithful numbered (fun _ => some 0) 0
  exact ⟨short, endsShort 31 short, long, endsLong 33 long, shows 31 _ last,
    endless fun place => by rw [circle, Option.isSome_some]⟩

end ErrorChain

end EventCapture
