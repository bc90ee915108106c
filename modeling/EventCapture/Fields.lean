/-! Structured fields of an event: texts under names, in ascending order of the names. A name has
one text at most, so equal fields have equal lists. -/

set_option autoImplicit false

namespace EventCapture

structure Fields where
  entries : List (String × String)
  ascending : entries.Pairwise (fun a b => a.1 < b.1)
  deriving DecidableEq

namespace Fields

instance : Repr Fields where
  reprPrec fields _ := repr fields.entries

def empty : Fields := ⟨[], .nil⟩

instance : Inhabited Fields := ⟨empty⟩

/-- Put a text under a name in an ascending list; what stood there is replaced. -/
def insertEntry (name text : String) : List (String × String) → List (String × String)
  | [] => [(name, text)]
  | entry :: rest =>
    if name < entry.1 then (name, text) :: entry :: rest
    else if name = entry.1 then (name, text) :: rest
    else entry :: insertEntry name text rest

theorem mem_insertEntry {name text : String} {entries : List (String × String)}
    {entry : String × String} (member : entry ∈ insertEntry name text entries) :
    entry = (name, text) ∨ entry ∈ entries := by
  induction entries with
  | nil => simpa [insertEntry] using member
  | cons first rest ih =>
    simp only [insertEntry] at member
    split at member
    · simpa using member
    · split at member
      · simp only [List.mem_cons] at member ⊢
        rcases member with same | member
        · exact .inl same
        · exact .inr (.inr member)
      · simp only [List.mem_cons] at member ⊢
        rcases member with same | member
        · exact .inr (.inl same)
        · rcases ih member with same | found
          · exact .inl same
          · exact .inr (.inr found)

theorem ascending_insertEntry (name text : String) {entries : List (String × String)}
    (ascending : entries.Pairwise (fun a b => a.1 < b.1)) :
    (insertEntry name text entries).Pairwise (fun a b => a.1 < b.1) := by
  induction entries with
  | nil => simp [insertEntry]
  | cons first rest ih =>
    obtain ⟨above, tail⟩ := List.pairwise_cons.1 ascending
    simp only [insertEntry]
    split
    · next before =>
      refine List.pairwise_cons.2 ⟨fun entry member => ?_, ascending⟩
      rcases List.mem_cons.1 member with rfl | member
      · exact before
      · exact String.lt_trans before (above entry member)
    · split
      · next same =>
        exact List.pairwise_cons.2 ⟨fun entry member => same ▸ above entry member, tail⟩
      · next notBefore differs =>
        refine List.pairwise_cons.2 ⟨fun entry member => ?_, ih tail⟩
        rcases mem_insertEntry member with rfl | member
        · rcases String.le_total name first.1 with below | below
          · exact absurd (String.le_antisymm below (String.not_lt.1 notBefore)) differs
          · exact Decidable.byContradiction fun notAfter =>
              differs (String.le_antisymm (String.not_lt.1 notAfter) below)
        · exact above entry member

def insert (fields : Fields) (name text : String) : Fields :=
  ⟨insertEntry name text fields.entries, ascending_insertEntry name text fields.ascending⟩

def get? (fields : Fields) (name : String) : Option String :=
  fields.entries.lookup name

def size (fields : Fields) : Nat := fields.entries.length

def isEmpty (fields : Fields) : Bool := fields.entries.isEmpty

/-- The fields of a list in which the later of two texts under one name counts. -/
def ofList (entries : List (String × String)) : Fields :=
  entries.foldl (fun fields entry => fields.insert entry.1 entry.2) empty

theorem lookup_insertEntry (name text other : String) (entries : List (String × String)) :
    (insertEntry name text entries).lookup other =
      if other = name then some text else entries.lookup other := by
  induction entries with
  | nil =>
    by_cases same : other = name
    · simp [insertEntry, same]
    · simp [insertEntry, List.lookup_cons, same, beq_eq_false_iff_ne.2 same]
  | cons first rest ih =>
    obtain ⟨key, value⟩ := first
    simp only [insertEntry]
    by_cases same : other = name
    · subst same
      split
      · simp
      · split
        · simp
        · next differs => simp [List.lookup_cons, ih, beq_eq_false_iff_ne.2 differs]
    · split
      · simp [List.lookup_cons, beq_eq_false_iff_ne.2 same]
      · split
        · next equal =>
          have notKey : other ≠ key := fun h => same (h.trans equal.symm)
          simp [List.lookup_cons, beq_eq_false_iff_ne.2 same, beq_eq_false_iff_ne.2 notKey]
        · simp [List.lookup_cons, ih, same]

theorem get?_insert (fields : Fields) (name text other : String) :
    (fields.insert name text).get? other =
      if other = name then some text else fields.get? other :=
  lookup_insertEntry name text other fields.entries

end Fields

end EventCapture
