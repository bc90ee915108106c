import EventCapture.Regex.Expr

/-! Expressions put together from others.

What is put together here has a plain form, on which its size depends: literals that meet are one, a
sequence has no sequences and nothing empty among its parts, choices have no choices among them, and
what begins all of several sequences stands once before the choice among the rest. -/

set_option autoImplicit false

namespace EventCapture.Regex.Expr

def characters : CharSet := .ofAscending [(0, 0xD7FF), (0xE000, 0x10FFFF)]

def only? (chars : CharSet) : Option Char :=
  match chars.changes with
  | [first, next] => if next = first + 1 then some (Char.ofNat first) else none
  | _ => none

/-- One character of a set. A single one is a literal, and of none it does not matter among which
they were chosen. -/
def ofSet (chars : CharSet) (allScripts : Bool) : Expr :=
  let chars := chars.inter characters
  match only? chars with
  | some c => .literal [c]
  | none => .char chars (allScripts && !chars.changes.isEmpty)

def parts : Expr → List Expr
  | .empty => []
  | .seq parts => parts
  | expr => [expr]

/-- Parts before others. Literals that meet are one. -/
def joined : List Expr → List Expr → List Expr
  | [.literal before], .literal after :: rest => .literal (before ++ after) :: rest
  | part :: parts, rest => part :: joined parts rest
  | [], rest => rest

def ofParts : List Expr → Expr
  | [] => .empty
  | [part] => part
  | parts => .seq parts

def ofSequence (exprs : List Expr) : Expr :=
  ofParts (exprs.foldr (fun expr rest => joined expr.parts rest) [])

mutual

def takesNothing : Expr → Bool
  | .empty | .anchor _ => true
  | .literal _ | .char _ _ => false
  | .seq exprs | .either exprs => allTakeNothing exprs
  | .repeated a _ _ _ | .captured a => a.takesNothing

def allTakeNothing : List Expr → Bool
  | [] => true
  | expr :: rest => expr.takesNothing && allTakeNothing rest

end

/-- The expression so often. What takes nothing need not be repeated more than once. -/
def ofRepeated (expr : Expr) (least : Nat) (most : Option Nat) (lazy : Bool) : Expr :=
  let (least, most) :=
    -- a second round of what takes nothing changes nothing
    if expr.takesNothing then (min least 1, some (min (most.getD 1) 1)) else (least, most)
  if most = some 0 then .empty
  else if least = 1 && most = some 1 then expr
  else .repeated expr least most lazy

mutual

/-- Whether two expressions say the same. A captured part is like no other, because each has a
number of its own. -/
def isLike : Expr → Expr → Bool
  | .empty, .empty => true
  | .literal a, .literal b => a == b
  | .char a inAll, .char b inAll' => a == b && inAll == inAll'
  | .anchor a, .anchor b => a == b
  | .seq a, .seq b => areLike a b
  | .either a, .either b => areLike a b
  | .repeated a least most lazy, .repeated b least' most' lazy' =>
    a.isLike b && least == least' && most == most' && lazy == lazy'
  | _, _ => false

def areLike : List Expr → List Expr → Bool
  | [], [] => true
  | a :: as, b :: bs => a.isLike b && areLike as bs
  | _, _ => false

end

def sharedLength : List Expr → List Expr → Nat
  | a :: as, b :: bs => if a.isLike b then sharedLength as bs + 1 else 0
  | _, _ => 0

def choices : Expr → List Expr
  | .either choices => choices
  | expr => [expr]

def char? : Expr → Option Char
  | .literal [c] => some c
  | _ => none

def set? : Expr → Option CharSet
  | .char chars _ => some chars
  | _ => none

def severalParts? : Expr → Option (List Expr)
  | .seq parts => some parts
  | _ => none

/-- The set of choices that are single characters all of them, or all of them sets. -/
def setOfChoices? (choices : List Expr) : Option CharSet :=
  match choices.mapM char? with
  | some chars => some (.unionAll (chars.map .single))
  | none => (choices.mapM set?).map .unionAll

/-- One of several expressions, where nothing is looked for that begins all of them. -/
def ofPlainChoices (exprs : List Expr) : Expr :=
  match exprs.flatMap choices with
  | [only] => only
  | all =>
    match setOfChoices? all with
    | some chars => .ofSet chars true
    | none => .either all

def ofChoices (exprs : List Expr) : Expr :=
  match ofPlainChoices exprs with
  | .either all =>
    match all.mapM severalParts? with
    | some (first :: others) =>
      let shared := others.foldl (fun least parts => min least (sharedLength first parts))
        first.length
      if shared = 0 then .either all
      else
        let rests := (first :: others).map fun parts => ofParts (parts.drop shared)
        ofSequence (first.take shared ++ [ofPlainChoices rests])
    | _ => .either all
  | expr => expr

end EventCapture.Regex.Expr
