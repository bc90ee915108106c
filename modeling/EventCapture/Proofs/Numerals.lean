import EventCapture.Text.Padded
import Mathlib.Data.Nat.Digits.Defs

/-! Decimal numerals inside a text.

A numeral reaches as far as there are digits. So a text that goes on with something else behind a
numeral determines the number, however many zeros the numeral is padded with, and the rest of the
text.
-/

set_option autoImplicit false

namespace EventCapture.Text

variable {rest more : List Char} {width n m : Nat}

/-- A text that does not go on with a digit. -/
def Stops (rest : List Char) : Prop := ∀ c ∈ rest.head?, c.isDigit = false

theorem stops_nil : Stops [] := nofun

theorem stops_cons {c : Char} (other : c.isDigit = false) (rest : List Char) :
    Stops (c :: rest) := by
  rintro _ ⟨⟩
  exact other

/-- Two runs of characters of one kind, in front of something of another kind, are the same run. -/
theorem run_append_inj (kind : Char → Bool) {first second : List Char}
    (run : ∀ c ∈ first, kind c = true) (run' : ∀ c ∈ second, kind c = true)
    (stops : ∀ c ∈ rest.head?, kind c = false) (stops' : ∀ c ∈ more.head?, kind c = false)
    (same : first ++ rest = second ++ more) : first = second ∧ rest = more := by
  induction first generalizing second with
  | nil =>
    cases second with
    | nil => exact ⟨rfl, same⟩
    | cons d second =>
      have other : kind d = false := stops d (by rw [List.nil_append] at same; rw [same]; rfl)
      exact absurd (run' d List.mem_cons_self) (by simp [other])
  | cons c first ih =>
    rw [List.forall_mem_cons] at run
    cases second with
    | nil =>
      have other : kind c = false := stops' c (by rw [List.nil_append] at same; rw [← same]; rfl)
      exact absurd run.1 (by simp [other])
    | cons d second =>
      rw [List.forall_mem_cons] at run'
      obtain ⟨rfl, tail⟩ := List.cons.inj same
      obtain ⟨rfl, rest⟩ := ih run.2 run'.2 tail
      exact ⟨rfl, rest⟩

theorem toList_toString (n : Nat) : (toString n).toList = Nat.toDigits 10 n := by
  rw [Nat.toString_eq_ofList_toDigits, String.toList_ofList]

theorem isDigit_of_mem_toString {c : Char} (member : c ∈ (toString n).toList) :
    c.isDigit = true := by
  rw [toList_toString] at member
  exact Nat.isDigit_of_mem_toDigits (by decide) (by decide) member

theorem notMem_toString {c : Char} (other : c.isDigit = false) (n : Nat) :
    c ∉ (toString n).toList :=
  fun member => Bool.false_ne_true (other.symm.trans (isDigit_of_mem_toString member))

theorem toString_eq_cons (n : Nat) :
    ∃ first rest, (toString n).toList = first :: rest ∧ first.isDigit = true := by
  obtain ⟨first, rest, whole⟩ := List.exists_cons_of_ne_nil
    (show (toString n).toList ≠ [] by rw [toList_toString]; exact Nat.toDigits_ne_nil)
  exact ⟨first, rest, whole, isDigit_of_mem_toString (whole ▸ List.mem_cons_self)⟩

theorem toString_append_inj (stops : Stops rest) (stops' : Stops more)
    (same : (toString n).toList ++ rest = (toString m).toList ++ more) : n = m ∧ rest = more := by
  obtain ⟨digits, rest⟩ := run_append_inj Char.isDigit (fun _ => isDigit_of_mem_toString)
    (fun _ => isDigit_of_mem_toString) stops stops' same
  rw [toList_toString, toList_toString] at digits
  refine ⟨?_, rest⟩
  rw [← @Nat.ofDigitChars_ten_toDigits n, digits, Nat.ofDigitChars_ten_toDigits]

/-! ### Numerals with zeros in front -/

theorem toList_zeroPadded (width n : Nat) :
    (zeroPadded width n).toList =
      List.replicate (width - (Nat.toDigits 10 n).length) '0' ++ Nat.toDigits 10 n := by
  simp [zeroPadded, Layout.apply, Alignment.split]

theorem isDigit_of_mem_zeroPadded {c : Char} (member : c ∈ (zeroPadded width n).toList) :
    c.isDigit = true := by
  rw [toList_zeroPadded, List.mem_append] at member
  rcases member with zero | digit
  · rw [List.eq_of_mem_replicate zero]
    rfl
  · exact Nat.isDigit_of_mem_toDigits (by decide) (by decide) digit

theorem notMem_zeroPadded {c : Char} (other : c.isDigit = false) (width n : Nat) :
    c ∉ (zeroPadded width n).toList :=
  fun member => Bool.false_ne_true (other.symm.trans (isDigit_of_mem_zeroPadded member))

theorem isDigit_head_zeroPadded {c : Char} (width n : Nat) (rest : List Char)
    (head : c ∈ ((zeroPadded width n).toList ++ rest).head?) : c.isDigit = true := by
  have some : (zeroPadded width n).toList ≠ [] := by simp [toList_zeroPadded, Nat.toDigits_ne_nil]
  obtain ⟨first, digits, whole⟩ := List.exists_cons_of_ne_nil some
  rw [whole, List.cons_append, List.head?_cons, Option.mem_some] at head
  rw [← head]
  exact isDigit_of_mem_zeroPadded (whole ▸ List.mem_cons_self)

/-- Zeros in front do not change the number. -/
theorem ofDigitChars_zeroPadded (width n : Nat) :
    Nat.ofDigitChars 10 (zeroPadded width n).toList 0 = n := by
  rw [toList_zeroPadded]
  induction width - (Nat.toDigits 10 n).length with
  | zero => exact Nat.ofDigitChars_ten_toDigits
  | succ zeros ih => simpa [List.replicate_succ, Nat.ofDigitChars_cons] using ih

theorem length_zeroPadded (some : 0 < width) (fits : n < 10 ^ width) :
    (zeroPadded width n).toList.length = width := by
  have short := Nat.toDigits_length 10 n width some fits
  rw [toList_zeroPadded, List.length_append, List.length_replicate]
  omega

theorem zeroPadded_append_inj (stops : Stops rest) (stops' : Stops more)
    (same : (zeroPadded width n).toList ++ rest = (zeroPadded width m).toList ++ more) :
    n = m ∧ rest = more := by
  obtain ⟨digits, rest⟩ := run_append_inj Char.isDigit (fun _ => isDigit_of_mem_zeroPadded)
    (fun _ => isDigit_of_mem_zeroPadded) stops stops' same
  refine ⟨?_, rest⟩
  rw [← ofDigitChars_zeroPadded width n, digits, ofDigitChars_zeroPadded]

end EventCapture.Text
