import EventCapture.Failure
import EventCapture.Name

/-! Patterns over logger names: every name, one exact name, or every name strictly below a base. -/

set_option autoImplicit false

namespace EventCapture

inductive NamePattern where
  | any
  | exact (name : String)
  /-- The names below the base: the base, a dot, and at least one more character. -/
  | descendants (base : String)
  deriving DecidableEq, Repr

namespace NamePattern

def segmentFault? (raw : String) : List (List Char) → Option Fault
  | [] => none
  | segment :: rest =>
    if segment.isEmpty then some (.emptySegment raw)
    else if segment.contains '*' then some (.misplacedStar raw)
    else segmentFault? raw rest

def baseOfStar? (name : List Char) : Option (List Char) :=
  match name.reverse with
  | '*' :: '.' :: base => some base.reverse
  | _ => none

/-- Read a pattern. The raw text may hold no blank, and after its double colons are written as
dots no segment may be empty; a star may only stand as the whole last segment. -/
def parse (raw : String) : Except Fault NamePattern :=
  if raw.isEmpty then .error .emptyPattern
  else if raw.toList.any Text.isBlank then .error (.blankInPattern raw)
  else
    let name := Name.dotted raw.toList
    if name = ['*'] then .ok .any
    else match baseOfStar? name with
      | some base =>
        match segmentFault? raw (Name.segments base) with
        | some fault => .error fault
        | none => .ok (.descendants (String.ofList base))
      | none =>
        match segmentFault? raw (Name.segments name) with
        | some fault => .error fault
        | none => .ok (.exact (String.ofList name))

def isBelow : List Char → List Char → Bool
  | [], '.' :: _ :: _ => true
  | b :: base, c :: name => b == c && isBelow base name
  | _, _ => false

def matchesName (pattern : NamePattern) (name : String) : Bool :=
  match pattern with
  | .any => true
  | .exact whole => name == whole
  | .descendants base => isBelow base.toList name.toList

def text : NamePattern → String
  | .any => "*"
  | .exact name => name
  | .descendants base => base ++ ".*"

theorem isBelow_iff {base name : List Char} :
    isBelow base name = true ↔ ∃ c rest, name = base ++ '.' :: c :: rest := by
  fun_induction isBelow base name with
  | case1 c rest => simp
  | case2 b base c name ih =>
    simp only [Bool.and_eq_true, beq_iff_eq, List.cons_append, List.cons.injEq]
    constructor
    · rintro ⟨rfl, below⟩
      obtain ⟨d, rest, rfl⟩ := ih.1 below
      exact ⟨d, rest, rfl, rfl⟩
    · rintro ⟨d, rest, rfl, rfl⟩
      exact ⟨rfl, ih.2 ⟨d, rest, rfl⟩⟩
  | case3 base name short differs =>
    constructor
    · intro below
      cases below
    · rintro ⟨d, rest, rfl⟩
      cases base with
      | nil => exact absurd rfl (short d rest rfl)
      | cons b base => exact absurd rfl (differs b base b _ rfl)

end NamePattern

end EventCapture
