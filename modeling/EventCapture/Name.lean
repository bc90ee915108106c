import EventCapture.Text.Pieces

/-! Logger names: a hierarchy of segments divided by dots. A target may divide its segments by a
double colon instead, and then names the logger whose name has dots in their places. -/

set_option autoImplicit false

namespace EventCapture.Name

def dotted : List Char → List Char
  | ':' :: ':' :: rest => '.' :: dotted rest
  | c :: rest => c :: dotted rest
  | [] => []

def ofTarget (target : String) : String :=
  String.ofList (dotted target.toList)

def segments (name : List Char) : List (List Char) := Text.pieces '.' name

def joined (segments : List (List Char)) : List Char := Text.joined '.' segments

theorem dotted_of_not_colon {c : Char} (plain : c ≠ ':') (rest : List Char) :
    dotted (c :: rest) = c :: dotted rest := by
  rw [dotted]
  exact fun _ colon => absurd colon plain

/-- What begins with a colon when its double colons are gone began with one before. -/
theorem exists_of_dotted_eq_cons {name rest : List Char} (colon : dotted name = ':' :: rest) :
    ∃ more, name = ':' :: more := by
  unfold dotted at colon
  split at colon
  · simp at colon
  · next c more _ =>
    obtain ⟨rfl, _⟩ := List.cons.inj colon
    exact ⟨more, rfl⟩
  · contradiction

/-- No double colon is left, so that writing dots once more changes nothing. -/
theorem dotted_dotted (name : List Char) : dotted (dotted name) = dotted name := by
  fun_induction dotted name with
  | case1 rest ih => rw [dotted_of_not_colon (by decide), ih]
  | case2 c rest single ih =>
    -- A colon that stays alone is not followed by another one in the result either.
    rw [dotted]
    · rw [ih]
    · rintro more rfl colon
      obtain ⟨others, rfl⟩ := exists_of_dotted_eq_cons colon
      exact single others rfl rfl
  | case3 => rfl

@[simp] theorem ofTarget_ofTarget (target : String) :
    ofTarget (ofTarget target) = ofTarget target := by
  simp only [ofTarget, String.toList_ofList, dotted_dotted]

/-- Writing dots takes no character away for good and adds none but dots. -/
theorem mem_dotted {name : List Char} {c : Char} (other : c ≠ '.' ∧ c ≠ ':') :
    c ∈ dotted name ↔ c ∈ name := by
  fun_induction dotted name with
  | case1 rest ih => simp [ih, other]
  | case2 d rest _ ih => simp [ih]
  | case3 => simp

theorem dotted_eq_nil_iff {name : List Char} : dotted name = [] ↔ name = [] := by
  fun_induction dotted name <;> simp

theorem segments_ne_nil (name : List Char) : segments name ≠ [] := Text.pieces_ne_nil '.' name

theorem joined_segments (name : List Char) : joined (segments name) = name :=
  Text.joined_pieces '.' name

end EventCapture.Name
