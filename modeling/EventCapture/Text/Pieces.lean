/-! The pieces of a text between separators, and pieces joined into a text again. -/

set_option autoImplicit false

namespace EventCapture.Text

def pieces (separator : Char) : List Char → List (List Char)
  | [] => [[]]
  | c :: rest =>
    if c = separator then [] :: pieces separator rest
    else match pieces separator rest with
      | first :: others => (c :: first) :: others
      | [] => [[c]]

def joined (separator : Char) : List (List Char) → List Char
  | [] => []
  | [one] => one
  | first :: rest => first ++ separator :: joined separator rest

theorem joined_eq_intercalate (separator : Char) (parts : List (List Char)) :
    joined separator parts = [separator].intercalate parts := by
  induction parts with
  | nil => rfl
  | cons first rest ih =>
    cases rest with
    | nil => exact (List.append_nil first).symm
    | cons second others =>
      rw [List.intercalate_cons_cons, ← ih, List.append_assoc]
      rfl

theorem notMem_joined {separator c : Char} (other : c ≠ separator) {parts : List (List Char)}
    (outside : ∀ part ∈ parts, c ∉ part) : c ∉ joined separator parts := by
  induction parts with
  | nil => exact List.not_mem_nil
  | cons first rest ih =>
    rw [List.forall_mem_cons] at outside
    cases rest with
    | nil => exact outside.1
    | cons second others =>
      show c ∉ first ++ separator :: joined separator (second :: others)
      rw [List.mem_append, List.mem_cons, not_or, not_or]
      exact ⟨outside.1, other, ih outside.2⟩

theorem pieces_ne_nil (separator : Char) (cs : List Char) : pieces separator cs ≠ [] := by
  cases cs with
  | nil => simp [pieces]
  | cons c rest =>
    simp only [pieces]
    split
    · simp
    · split <;> simp

theorem joined_pieces (separator : Char) (cs : List Char) :
    joined separator (pieces separator cs) = cs := by
  induction cs with
  | nil => rfl
  | cons c rest ih =>
    simp only [pieces]
    split
    · next same =>
      cases divided : pieces separator rest with
      | nil => exact absurd divided (pieces_ne_nil separator rest)
      | cons first others => rw [joined, ← divided, ih, same, List.nil_append]; simp
    · cases divided : pieces separator rest with
      | nil => exact absurd divided (pieces_ne_nil separator rest)
      | cons first others =>
        rw [divided] at ih
        cases others with
        | nil => simpa [joined] using ih
        | cons second more =>
          rw [← ih]
          simp [joined]

theorem pieces_of_notMem {separator : Char} {cs : List Char} (outside : separator ∉ cs) :
    pieces separator cs = [cs] := by
  induction cs with
  | nil => rfl
  | cons c rest ih =>
    rw [List.mem_cons, not_or] at outside
    rw [pieces, if_neg (Ne.symm outside.1), ih outside.2]

theorem length_pieces (separator : Char) (cs : List Char) :
    (pieces separator cs).length = cs.count separator + 1 := by
  induction cs with
  | nil => rfl
  | cons c rest ih =>
    simp only [pieces, List.count_cons]
    split
    · next same => simp [ih, same]
    · next other =>
      cases divided : pieces separator rest with
      | nil => exact absurd divided (pieces_ne_nil separator rest)
      | cons first others => simpa [divided, other] using ih

theorem notMem_of_mem_pieces {separator : Char} {cs piece : List Char}
    (member : piece ∈ pieces separator cs) : separator ∉ piece := by
  induction cs generalizing piece with
  | nil => simp [List.mem_singleton.mp member]
  | cons c rest ih =>
    simp only [pieces] at member
    split at member
    · rcases List.mem_cons.mp member with rfl | later
      · exact List.not_mem_nil
      · exact ih later
    · next other =>
      cases divided : pieces separator rest with
      | nil => exact absurd divided (pieces_ne_nil separator rest)
      | cons first others =>
        rw [divided, List.forall_mem_cons] at ih
        rw [divided] at member
        rcases List.mem_cons.mp member with rfl | later
        · rw [List.mem_cons, not_or]
          exact ⟨Ne.symm other, ih.1⟩
        · exact ih.2 piece later

theorem pieces_append (separator : Char) (first rest : List Char) :
    pieces separator (first ++ separator :: rest) =
      pieces separator first ++ pieces separator rest := by
  induction first with
  | nil => simp [pieces]
  | cons c more ih =>
    simp only [List.cons_append, pieces, ih]
    split
    · rfl
    · cases divided : pieces separator more with
      | nil => exact absurd divided (pieces_ne_nil separator more)
      | cons head others => rfl

/-- Joined texts are divided where they were joined, and where they had separators themselves. -/
theorem pieces_joined (separator : Char) {parts : List (List Char)} (some : parts ≠ []) :
    pieces separator (joined separator parts) = parts.flatMap (pieces separator) := by
  induction parts with
  | nil => contradiction
  | cons first rest ih =>
    cases rest with
    | nil => simp [joined]
    | cons second others =>
      rw [List.flatMap_cons, ← ih (List.cons_ne_nil second others), ← pieces_append]
      rfl

theorem joined_append (separator : Char) {before after : List (List Char)} (some : before ≠ [])
    (more : after ≠ []) :
    joined separator (before ++ after) =
      joined separator before ++ separator :: joined separator after := by
  induction before with
  | nil => contradiction
  | cons first rest ih =>
    cases rest with
    | nil =>
      cases after with
      | nil => contradiction
      | cons second others => rfl
    | cons second others =>
      have tail := ih (List.cons_ne_nil second others)
      simp only [List.cons_append, joined, List.append_assoc] at tail ⊢
      rw [tail]

theorem joined_concat (separator : Char) {before : List (List Char)} (some : before ≠ [])
    (last : List Char) :
    joined separator (before ++ [last]) = joined separator before ++ separator :: last :=
  joined_append separator some (List.cons_ne_nil last [])

/-- Texts that are joined behind the same ones can be told apart behind them. -/
theorem joined_append_cancel (separator : Char) (front : List (List Char))
    {first second : List (List Char)} (some : first ≠ []) (others : second ≠ [])
    (same : joined separator (front ++ first) = joined separator (front ++ second)) :
    joined separator first = joined separator second := by
  cases front with
  | nil => exact same
  | cons one rest =>
    have begun := List.cons_ne_nil one rest
    rw [joined_append separator begun some, joined_append separator begun others] at same
    exact (List.cons.inj (List.append_cancel_left same)).2

theorem exists_joined_cons (separator : Char) (first : List Char) (rest : List (List Char)) :
    ∃ more, joined separator (first :: rest) = first ++ more := by
  cases rest with
  | nil => exact ⟨[], (List.append_nil first).symm⟩
  | cons second others => exact ⟨separator :: joined separator (second :: others), rfl⟩

end EventCapture.Text
