/-! Sets of characters, kept as the code points at which membership changes.

Below the first of these code points nothing is in the set; from each on, membership is the opposite
of what it was before. So `[0x41, 0x5B]` holds the letters from `A` to `Z`. Every operation on two
sets is one walk along both lists, and the main statements say what it does to membership.
-/

set_option autoImplicit false

namespace EventCapture

structure CharSet where
  changes : List Nat
  ascending : changes.Pairwise (· < ·)
  deriving DecidableEq, Repr

namespace CharSet

/-- Membership of a code point, given the membership before the first change. -/
def heldFrom : Bool → List Nat → Nat → Bool
  | inside, [], _ => inside
  | inside, change :: rest, n => if n < change then inside else heldFrom (!inside) rest n

def holds (set : CharSet) (n : Nat) : Bool :=
  heldFrom false set.changes n

def has (set : CharSet) (c : Char) : Bool :=
  set.holds c.toNat

def empty : CharSet := ⟨[], .nil⟩

def all : CharSet := ⟨[0], by simp⟩

theorem pairwise_range {first last : Nat} (ordered : first ≤ last) :
    [first, last + 1].Pairwise (· < ·) :=
  List.pairwise_pair.mpr (Nat.lt_succ_of_le ordered)

def range (first last : Nat) : CharSet :=
  if h : first ≤ last then ⟨[first, last + 1], pairwise_range h⟩ else empty

def single (c : Char) : CharSet :=
  range c.toNat c.toNat

/-- A change at a code point before others, if there is one. -/
def changeAt (n : Nat) (before after : Bool) (rest : List Nat) : List Nat :=
  if before == after then rest else n :: rest

/-- The changes of a set that holds what an operation makes of the memberships in two others, which
before the first changes are as given. -/
def combined (op : Bool → Bool → Bool) (a b : Bool) : List Nat → List Nat → List Nat
  | [], [] => []
  | x :: xs, [] => changeAt x (op a b) (op (!a) b) (combined op (!a) b xs [])
  | [], y :: ys => changeAt y (op a b) (op a !b) (combined op a (!b) [] ys)
  | x :: xs, y :: ys =>
    if x < y then changeAt x (op a b) (op (!a) b) (combined op (!a) b xs (y :: ys))
    else if y < x then changeAt y (op a b) (op a !b) (combined op a (!b) (x :: xs) ys)
    else changeAt x (op a b) (op (!a) !b) (combined op (!a) (!b) xs ys)
  termination_by xs ys => xs.length + ys.length

theorem heldFrom_eq_of_lt {inside : Bool} {changes : List Nat} {n : Nat}
    (below : ∀ change ∈ changes, n < change) : heldFrom inside changes n = inside := by
  cases changes with
  | nil => rfl
  | cons change rest => simp [heldFrom, below change]

theorem heldFrom_changeAt {x n : Nat} {before after : Bool} {rest : List Nat}
    (above : ∀ change ∈ rest, x < change) :
    heldFrom before (changeAt x before after rest) n =
      if n < x then before else heldFrom after rest n := by
  unfold changeAt
  split
  · next same =>
    split
    · exact heldFrom_eq_of_lt fun change member => Nat.lt_trans ‹n < x› (above change member)
    · rw [eq_of_beq same]
  · next differs =>
    have : (!before) = after := by revert differs; cases before <;> cases after <;> simp
    simp [heldFrom, this]

theorem mem_of_mem_changeAt {x n : Nat} {before after : Bool} {rest : List Nat}
    (member : n ∈ changeAt x before after rest) : n = x ∨ n ∈ rest := by
  unfold changeAt at member
  split at member
  · exact .inr member
  · exact List.mem_cons.1 member

theorem pairwise_changeAt {x : Nat} {before after : Bool} {rest : List Nat}
    (above : ∀ change ∈ rest, x < change) (ascending : rest.Pairwise (· < ·)) :
    (changeAt x before after rest).Pairwise (· < ·) := by
  unfold changeAt
  split
  · exact ascending
  · exact List.pairwise_cons.2 ⟨above, ascending⟩

theorem mem_of_mem_combined {op : Bool → Bool → Bool} {a b : Bool} {xs ys : List Nat} {n : Nat}
    (member : n ∈ combined op a b xs ys) : n ∈ xs ∨ n ∈ ys := by
  fun_induction combined op a b xs ys <;> grind [mem_of_mem_changeAt]

theorem pairwise_combined {op : Bool → Bool → Bool} {a b : Bool} {xs ys : List Nat}
    (hx : xs.Pairwise (· < ·)) (hy : ys.Pairwise (· < ·)) :
    (combined op a b xs ys).Pairwise (· < ·) := by
  fun_induction combined op a b xs ys with
  | case1 => exact .nil
  | case2 | case3 | case4 | case5 | case6 =>
    refine pairwise_changeAt (fun c member => ?_) (by grind [List.pairwise_cons])
    have := mem_of_mem_combined member
    grind [List.pairwise_cons]

theorem heldFrom_combined {op : Bool → Bool → Bool} {a b : Bool} {xs ys : List Nat} {n : Nat}
    (hx : xs.Pairwise (· < ·)) (hy : ys.Pairwise (· < ·)) :
    heldFrom (op a b) (combined op a b xs ys) n = op (heldFrom a xs n) (heldFrom b ys n) := by
  fun_induction combined op a b xs ys with
  | case1 => rfl
  | case2 | case3 | case4 | case5 | case6 =>
    rw [heldFrom_changeAt fun c member => ?_]
    · grind [heldFrom, List.pairwise_cons]
    · have := mem_of_mem_combined member
      grind [List.pairwise_cons]

/-- What an operation that keeps nothing of nothing makes of two sets. -/
def combine (op : Bool → Bool → Bool) (a b : CharSet) : CharSet :=
  ⟨combined op false false a.changes b.changes, pairwise_combined a.ascending b.ascending⟩

theorem holds_combine {op : Bool → Bool → Bool} (nothing : op false false = false) (a b : CharSet)
    (n : Nat) : (combine op a b).holds n = op (a.holds n) (b.holds n) := by
  have walk := @heldFrom_combined op false false _ _ n a.ascending b.ascending
  rwa [nothing] at walk

def union (a b : CharSet) : CharSet := combine (· || ·) a b

def inter (a b : CharSet) : CharSet := combine (· && ·) a b

def diff (a b : CharSet) : CharSet := combine (fun inA inB => inA && !inB) a b

def symmDiff (a b : CharSet) : CharSet := combine xor a b

def unionAll (sets : List CharSet) : CharSet :=
  sets.foldl union empty

def complement (set : CharSet) : CharSet :=
  match set with
  | ⟨[], _⟩ => all
  | ⟨0 :: rest, ascending⟩ => ⟨rest, ascending.of_cons⟩
  | ⟨(first + 1) :: rest, ascending⟩ =>
    ⟨0 :: (first + 1) :: rest, by simp only [List.pairwise_cons] at ascending ⊢; grind⟩

theorem heldFrom_not (inside : Bool) (changes : List Nat) (n : Nat) :
    heldFrom (!inside) changes n = !heldFrom inside changes n := by
  induction changes generalizing inside with
  | nil => rfl
  | cons change rest ih => simp only [heldFrom]; split <;> simp [ih]

theorem holds_complement (set : CharSet) (n : Nat) : set.complement.holds n = !set.holds n := by
  unfold complement
  split <;> simp [holds, all, heldFrom, ← heldFrom_not]

/-- One more range before ascending changes. Ranges that touch become one; a range out of order is
left out. -/
def addRange (range : Nat × Nat) (changes : List Nat) : List Nat :=
  if range.2 < range.1 then changes
  else match changes with
    | [] => [range.1, range.2 + 1]
    | next :: later =>
      if range.2 + 1 < next then range.1 :: (range.2 + 1) :: next :: later
      else if range.2 + 1 = next then range.1 :: later
      else changes

theorem pairwise_addRange {range : Nat × Nat} {changes : List Nat}
    (ascending : changes.Pairwise (· < ·)) : (addRange range changes).Pairwise (· < ·) := by
  unfold addRange
  grind [List.pairwise_cons]

def ofAscending (ranges : List (Nat × Nat)) : CharSet :=
  ⟨ranges.foldr addRange [], by
    induction ranges with
    | nil => exact .nil
    | cons range rest ih => exact pairwise_addRange ih⟩

/-- The ranges between changes, up to the last code point there is. -/
def rangesOf : List Nat → List (Nat × Nat)
  | first :: next :: rest => (first, next - 1) :: rangesOf rest
  | [first] => [(first, 0x10FFFF)]
  | [] => []

def ranges (set : CharSet) : List (Nat × Nat) :=
  rangesOf set.changes

end CharSet

end EventCapture
