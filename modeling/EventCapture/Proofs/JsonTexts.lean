import EventCapture.Json
import EventCapture.Proofs.Numerals
import EventCapture.Text.Pieces

/-! Written values of data interchange text.

The first character of a written value tells the sort of the value, and everything but a number
tells by itself where it ends: a word by its letters, a text at the first quote that is not escaped,
and an array or object at the bracket where another item would begin. A number ends where the digits
do. So a written value in front of something that is no digit determines the value and the text
behind it. No written value has a line feed in it, since in texts it is escaped.
-/

set_option autoImplicit false

namespace EventCapture.Json

open Text

variable {rest more : List Char}

/-- Induction over values, in which every item of an array and every member of an object has been
dealt with. -/
@[elab_as_elim]
theorem induction {motive : Json → Prop} (null : motive .null)
    (bool : ∀ value, motive (.bool value)) (number : ∀ value, motive (.number value))
    (text : ∀ value, motive (.text value))
    (array : ∀ items, (∀ item ∈ items, motive item) → motive (.array items))
    (object : ∀ members, (∀ member ∈ members, motive member.2) → motive (.object members)) :
    ∀ value, motive value
  | .null => null
  | .bool value => bool value
  | .number value => number value
  | .text value => text value
  | .array items => array items fun item _ => induction null bool number text array object item
  | .object members =>
    object members fun (_, value) _ => induction null bool number text array object value
decreasing_by
  · next inside =>
    have smaller := List.sizeOf_lt_of_mem inside
    rw [Json.array.sizeOf_spec]
    omega
  · next inside =>
    have smaller := List.sizeOf_lt_of_mem inside
    rw [Prod.mk.sizeOf_spec] at smaller
    rw [Json.object.sizeOf_spec]
    omega

/-! ### Texts -/

/-- What a digit in base sixteen is worth. -/
def hexValue (c : Char) : Nat := if c.isDigit then c.toNat - '0'.toNat else c.toNat - 'a'.toNat + 10

/-- The character that a letter behind a backslash stands for. -/
def escaped : Char → Char
  | 'b' => '\x08'
  | 't' => '\t'
  | 'n' => '\n'
  | 'f' => '\x0c'
  | 'r' => '\r'
  | c => c

/-- Read a text up to the quote at its end. -/
def readText? : List Char → Option (List Char × List Char)
  | [] => none
  | '"' :: rest => some ([], rest)
  | '\\' :: 'u' :: _ :: _ :: high :: low :: rest =>
    (readText? rest).map fun (cs, rest) =>
      (Char.ofNat (16 * hexValue high + hexValue low) :: cs, rest)
  | '\\' :: c :: rest => (readText? rest).map fun (cs, rest) => (escaped c :: cs, rest)
  | c :: rest => (readText? rest).map fun (cs, rest) => (c :: cs, rest)

theorem hexValue_hexDigits :
    ∀ n < 0x20, 16 * hexValue (hexDigit (n / 16)) + hexValue (hexDigit n) = n := by
  decide

theorem readText?_escapeChar (c : Char) (rest : List Char) :
    readText? (escapeChar c ++ rest) = (readText? rest).map fun (cs, rest) => (c :: cs, rest) := by
  unfold escapeChar
  split
  · subst c; rfl
  split
  · subst c; rfl
  split
  · subst c; rfl
  split
  · subst c; rfl
  split
  · subst c; rfl
  split
  · subst c; rfl
  split
  · subst c; rfl
  split
  · next control =>
    simp only [List.cons_append, List.nil_append, readText?, hexValue_hexDigits c.toNat control,
      Char.ofNat_toNat]
  · next backslash _ _ _ _ _ _ => simp [readText?, backslash]

/-- Whatever the text, the quote at its end is the first one that is not escaped. -/
theorem readText?_flatMap (cs rest : List Char) :
    readText? (cs.flatMap escapeChar ++ '"' :: rest) = some (cs, rest) := by
  induction cs with
  | nil => rfl
  | cons c cs ih =>
    rw [List.flatMap_cons, List.append_assoc, readText?_escapeChar, ih, Option.map_some]

theorem toList_renderText (value : String) :
    (renderText value).toList = '"' :: value.toList.flatMap escapeChar ++ ['"'] :=
  String.toList_ofList

theorem renderText_append_inj {value other : String}
    (same : (renderText value).toList ++ rest = (renderText other).toList ++ more) :
    value = other ∧ rest = more := by
  simp only [toList_renderText, List.cons_append, List.append_assoc, List.nil_append] at same
  have read := congrArg readText? (List.cons.inj same).2
  rw [readText?_flatMap, readText?_flatMap, Option.some.injEq, Prod.mk.injEq, String.toList_inj]
    at read
  exact read

theorem newline_notMem_escapeChar (c : Char) : '\n' ∉ escapeChar c := by
  have digits : ∀ n < 16, '\n' ≠ Nat.digitChar n := by decide
  have digit (n : Nat) : '\n' ≠ hexDigit n := digits (n % 16) (Nat.mod_lt n (by decide))
  unfold escapeChar
  grind

theorem newline_notMem_renderText (value : String) : '\n' ∉ (renderText value).toList := by
  simp [toList_renderText, newline_notMem_escapeChar]

/-! ### Numbers -/

theorem toList_ofNat (n : Nat) : (toString (Int.ofNat n)).toList = (toString n).toList := rfl

theorem toList_negSucc (n : Nat) :
    (toString (Int.negSucc n)).toList = '-' :: (toString (n + 1)).toList :=
  String.toList_append

theorem number_append_inj {value other : Int} (stops : Stops rest) (stops' : Stops more)
    (same : (toString value).toList ++ rest = (toString other).toList ++ more) :
    value = other ∧ rest = more := by
  cases value with
  | ofNat n =>
    cases other with
    | ofNat m =>
      obtain ⟨rfl, tail⟩ := toString_append_inj stops stops' same
      exact ⟨rfl, tail⟩
    | negSucc m =>
      obtain ⟨first, digits, whole, digit⟩ := toString_eq_cons n
      rw [toList_ofNat, whole, toList_negSucc] at same
      exact absurd digit ((List.cons.inj same).1 ▸ by decide)
  | negSucc n =>
    cases other with
    | ofNat m =>
      obtain ⟨first, digits, whole, digit⟩ := toString_eq_cons m
      rw [toList_ofNat, whole, toList_negSucc] at same
      exact absurd digit ((List.cons.inj same).1 ▸ by decide)
    | negSucc m =>
      rw [toList_negSucc, toList_negSucc] at same
      obtain ⟨next, tail⟩ := toString_append_inj stops stops' (List.cons.inj same).2
      exact ⟨congrArg Int.negSucc (Nat.succ.inj next), tail⟩

theorem newline_notMem_number (value : Int) : '\n' ∉ (toString value).toList := by
  cases value with
  | ofNat n => exact notMem_toString rfl n
  | negSucc n =>
    rw [toList_negSucc, List.mem_cons, not_or]
    exact ⟨by decide, notMem_toString rfl (n + 1)⟩

/-! ### Items with commas between them -/

theorem toList_renderItems (items : List Json) :
    (renderItems items).toList = joined ',' (items.map fun item => item.render.toList) := by
  induction items with
  | nil => rfl
  | cons first rest ih =>
    cases rest with
    | nil => rfl
    | cons second others =>
      have tail : joined ',' _ = _ := ih.symm
      simp only [renderItems, String.toList_append, List.append_assoc, List.map_cons, joined]
        at tail ⊢
      rw [tail]
      rfl

theorem toList_renderMembers (members : List (String × Json)) :
    (renderMembers members).toList =
      joined ',' (members.map fun member => (renderMember member).toList) := by
  induction members with
  | nil => rfl
  | cons first rest ih =>
    cases rest with
    | nil => rfl
    | cons second others =>
      have tail : joined ',' _ = _ := ih.symm
      simp only [renderMembers, String.toList_append, List.append_assoc, List.map_cons, joined]
        at tail ⊢
      rw [tail]
      rfl

theorem toList_renderMember (member : String × Json) :
    (renderMember member).toList =
      '"' :: member.1.toList.flatMap escapeChar ++ '"' :: ':' :: member.2.render.toList := by
  rw [renderMember, String.toList_append, String.toList_append, toList_renderText]
  simp

theorem toList_array (items : List Json) :
    (array items).render.toList =
      '[' :: joined ',' (items.map fun item => item.render.toList) ++ [']'] := by
  rw [render, String.toList_append, String.toList_append, toList_renderItems]
  rfl

theorem toList_object (members : List (String × Json)) :
    (object members).render.toList =
      '\x7b' :: joined ',' (members.map fun member => (renderMember member).toList) ++
        ['\x7d'] := by
  rw [render, String.toList_append, String.toList_append, toList_renderMembers]
  rfl

/-- What stands behind an item: a comma and the other items, or what closes them all. -/
def following {α : Type} (write : α → List Char) (close : Char) (rest : List Char) :
    List α → List Char
  | [] => close :: rest
  | next :: others => ',' :: (joined ',' ((next :: others).map write) ++ close :: rest)

theorem joined_cons {α : Type} (write : α → List Char) (close : Char) (rest : List Char) (item : α)
    (items : List α) :
    joined ',' ((item :: items).map write) ++ close :: rest =
      write item ++ following write close rest items := by
  cases items with
  | nil => rfl
  | cons next others => exact List.append_assoc _ _ _

theorem stops_following {α : Type} (write : α → List Char) {close : Char}
    (closes : close.isDigit = false) (rest : List Char) (items : List α) :
    Stops (following write close rest items) := by
  cases items with
  | nil => exact stops_cons closes _
  | cons next others => exact stops_cons rfl _

/-- If every item tells where it ends, and none begins with what stands behind the last one, then
the items can be told from the text, and so can what is behind them. -/
theorem joined_append_inj {α : Type} {write : α → List Char} {close : Char}
    (closes : close.isDigit = false) (other : close ≠ ',')
    (begins : ∀ item, ∃ first rest, write item = first :: rest ∧ first ≠ close)
    {items others : List α}
    (ends : ∀ item ∈ items, ∀ (other : α) (rest more : List Char), Stops rest → Stops more →
      write item ++ rest = write other ++ more → item = other ∧ rest = more)
    (same : joined ',' (items.map write) ++ close :: rest =
      joined ',' (others.map write) ++ close :: more) : items = others ∧ rest = more := by
  induction items generalizing others with
  | nil =>
    cases others with
    | nil => exact ⟨rfl, (List.cons.inj same).2⟩
    | cons item others =>
      obtain ⟨first, tail, whole, differs⟩ := begins item
      rw [joined_cons, whole] at same
      exact absurd (List.cons.inj same).1.symm differs
  | cons item items ih =>
    cases others with
    | nil =>
      obtain ⟨first, tail, whole, differs⟩ := begins item
      rw [joined_cons, whole] at same
      exact absurd (List.cons.inj same).1 differs
    | cons item' others =>
      rw [joined_cons, joined_cons] at same
      obtain ⟨rfl, behind⟩ := ends item List.mem_cons_self item' _ _
        (stops_following write closes rest items) (stops_following write closes more others) same
      -- Behind the first item a comma tells that there are others.
      cases items with
      | nil =>
        cases others with
        | nil => exact ⟨rfl, (List.cons.inj behind).2⟩
        | cons next others => exact absurd (List.cons.inj behind).1 other
      | cons next items =>
        cases others with
        | nil => exact absurd (List.cons.inj behind).1.symm other
        | cons next' others =>
          obtain ⟨alike, rest⟩ :=
            ih (fun later among => ends later (List.mem_cons_of_mem item among))
              (List.cons.inj behind).2
          exact ⟨congrArg (item :: ·) alike, rest⟩

/-! ### Sorts of values -/

inductive Kind where
  | null
  | bool
  | number
  | text
  | array
  | object
  deriving DecidableEq, Repr

def kind : Json → Kind
  | .null => .null
  | .bool _ => .bool
  | .number _ => .number
  | .text _ => .text
  | .array _ => .array
  | .object _ => .object

/-- The sort of the values that a character begins. -/
def Kind.ofFirst? (c : Char) : Option Kind :=
  if c = 'n' then some .null
  else if c = 't' ∨ c = 'f' then some .bool
  else if c = '-' ∨ c.isDigit then some .number
  else if c = '"' then some .text
  else if c = '[' then some .array
  else if c = '\x7b' then some .object
  else none

theorem Kind.ofFirst?_digit {c : Char} (digit : c.isDigit = true) :
    ofFirst? c = some .number := by
  have other (d : Char) (no : d.isDigit = false) : c ≠ d := by
    rintro rfl
    exact Bool.false_ne_true (no.symm.trans digit)
  simp [ofFirst?, digit, other]

theorem render_eq_cons (value : Json) :
    ∃ first rest, value.render.toList = first :: rest ∧
      Kind.ofFirst? first = some value.kind := by
  cases value with
  | null => exact ⟨_, _, rfl, rfl⟩
  | bool value => cases value <;> exact ⟨_, _, rfl, rfl⟩
  | number value =>
    cases value with
    | ofNat n =>
      obtain ⟨first, rest, whole, digit⟩ := toString_eq_cons n
      exact ⟨first, rest, whole, Kind.ofFirst?_digit digit⟩
    | negSucc n => exact ⟨_, _, toList_negSucc n, rfl⟩
  | text value => exact ⟨_, _, toList_renderText value, rfl⟩
  | array items => exact ⟨_, _, toList_array items, rfl⟩
  | object members => exact ⟨_, _, toList_object members, rfl⟩

theorem begins_otherwise (value : Json) {close : Char} (none : Kind.ofFirst? close = none) :
    ∃ first rest, value.render.toList = first :: rest ∧ first ≠ close := by
  obtain ⟨first, rest, whole, sort⟩ := value.render_eq_cons
  refine ⟨first, rest, whole, ?_⟩
  rintro rfl
  exact Option.some_ne_none _ (sort.symm.trans none)

theorem kind_eq_of_render {a b : Json}
    (same : a.render.toList ++ rest = b.render.toList ++ more) : a.kind = b.kind := by
  obtain ⟨first, tail, whole, sort⟩ := a.render_eq_cons
  obtain ⟨first', tail', whole', sort'⟩ := b.render_eq_cons
  rw [whole, whole'] at same
  obtain ⟨rfl, _⟩ := List.cons.inj same
  exact Option.some.inj (sort.symm.trans sort')

/-! ### Values -/

theorem renderMember_append_inj {member other : String × Json}
    (ends : ∀ (b : Json) (rest more : List Char), Stops rest → Stops more →
      member.2.render.toList ++ rest = b.render.toList ++ more → member.2 = b ∧ rest = more)
    (stops : Stops rest) (stops' : Stops more)
    (same : (renderMember member).toList ++ rest = (renderMember other).toList ++ more) :
    member = other ∧ rest = more := by
  obtain ⟨name, value⟩ := member
  obtain ⟨name', value'⟩ := other
  simp only [renderMember, String.toList_append, List.append_assoc] at same
  obtain ⟨rfl, tail⟩ := renderText_append_inj same
  obtain ⟨rfl, rest⟩ := ends value' _ _ stops stops' (List.cons.inj tail).2
  exact ⟨rfl, rest⟩

/-- A value that is followed by something else than a digit can be told from the text, and so can
what follows. -/
theorem render_append_inj {a b : Json} (stops : Stops rest) (stops' : Stops more)
    (same : a.render.toList ++ rest = b.render.toList ++ more) : a = b ∧ rest = more := by
  induction a using Json.induction generalizing b rest more with
  | null =>
    cases b with
    | null => exact ⟨rfl, List.append_cancel_left same⟩
    | _ => cases kind_eq_of_render same
  | bool value =>
    cases b with
    | bool other =>
      cases value <;> cases other
      · exact ⟨rfl, List.append_cancel_left same⟩
      · exact absurd (List.cons.inj same).1 (by decide)
      · exact absurd (List.cons.inj same).1 (by decide)
      · exact ⟨rfl, List.append_cancel_left same⟩
    | _ => cases kind_eq_of_render same
  | number value =>
    cases b with
    | number other =>
      obtain ⟨rfl, tail⟩ := number_append_inj stops stops' same
      exact ⟨rfl, tail⟩
    | _ => cases kind_eq_of_render same
  | text value =>
    cases b with
    | text other =>
      obtain ⟨rfl, tail⟩ := renderText_append_inj same
      exact ⟨rfl, tail⟩
    | _ => cases kind_eq_of_render same
  | array items ih =>
    cases b with
    | array others =>
      rw [toList_array, toList_array, List.append_assoc, List.append_assoc] at same
      obtain ⟨rfl, tail⟩ := joined_append_inj rfl (by decide)
        (fun item => item.begins_otherwise rfl)
        (fun item among other _ _ stops stops' same => ih item among stops stops' same)
        (List.cons.inj same).2
      exact ⟨rfl, tail⟩
    | _ => cases kind_eq_of_render same
  | object members ih =>
    cases b with
    | object others =>
      rw [toList_object, toList_object, List.append_assoc, List.append_assoc] at same
      obtain ⟨rfl, tail⟩ := joined_append_inj rfl (by decide)
        (fun member => ⟨'"', _, toList_renderMember member, by decide⟩)
        (fun member among other _ _ stops stops' same =>
          renderMember_append_inj (fun b _ _ stops stops' same => ih member among stops stops' same)
            stops stops' same)
        (List.cons.inj same).2
      exact ⟨rfl, tail⟩
    | _ => cases kind_eq_of_render same

/-- Two values never have one text. -/
theorem render_inj {a b : Json} (same : a.render = b.render) : a = b :=
  (render_append_inj stops_nil stops_nil (congrArg (·.toList ++ []) same)).1

theorem newline_notMem_render (value : Json) : '\n' ∉ value.render.toList := by
  induction value using Json.induction with
  | null => decide
  | bool value => cases value <;> decide
  | number value => exact newline_notMem_number value
  | text value => exact newline_notMem_renderText value
  | array items ih =>
    have inside : '\n' ∉ joined ',' (items.map fun item => item.render.toList) :=
      notMem_joined (by decide) (by simpa using ih)
    simp [toList_array, inside]
  | object members ih =>
    have inside : '\n' ∉ joined ',' (members.map fun member => (renderMember member).toList) := by
      refine notMem_joined (by decide) (List.forall_mem_map.mpr fun member among => ?_)
      simp [toList_renderMember, newline_notMem_escapeChar, ih member among]
    simp [toList_object, inside]

end EventCapture.Json
