import EventCapture.Character.CharSet

/-! Regular expressions and the texts in which they find a match.

A search keeps a set of places of the text as a natural number: place `i` is in the set when bit
`i` is one. On one text an expression becomes a walk, whose leaves know their places; a walk leads
from the places where a match may begin to the places where it may end.
-/

set_option autoImplicit false

namespace EventCapture.Regex

inductive Anchor where
  | textStart
  | textEnd
  /-- At the start of a line. -/
  | lineStart
  | lineEnd
  /-- At the start of a line where a carriage return may stand before the line feed. -/
  | windowsLineStart
  | windowsLineEnd
  | wordBoundary (chars : CharSet)
  | noWordBoundary (chars : CharSet)
  | wordStart (chars : CharSet)
  | wordEnd (chars : CharSet)
  | wordStartHalf (chars : CharSet)
  | wordEndHalf (chars : CharSet)
  deriving DecidableEq, Repr

inductive Expr where
  | empty
  | literal (chars : List Char)
  /-- One character of a set, which was chosen among those of all scripts or of ASCII. -/
  | char (chars : CharSet) (allScripts : Bool)
  | anchor (condition : Anchor)
  | seq (parts : List Expr)
  | either (choices : List Expr)
  /-- The expression at least so often, and at most so often if there is a limit. A lazy one prefers
  fewer rounds, which has no part in whether a match exists. -/
  | repeated (a : Expr) (least : Nat) (most : Option Nat) (lazy : Bool)
  | captured (a : Expr)
  deriving Repr

def Anchor.seesScripts : Anchor → Bool
  | .textStart | .textEnd | .lineStart | .lineEnd | .windowsLineStart | .windowsLineEnd => false
  | .wordBoundary chars | .noWordBoundary chars | .wordStart chars | .wordEnd chars
  | .wordStartHalf chars | .wordEndHalf chars => !(chars.diff (.range 0 0x7F)).changes.isEmpty

mutual

def Expr.anyAnchor (isWanted : Anchor → Bool) : Expr → Bool
  | .empty | .literal _ | .char _ _ => false
  | .anchor condition => isWanted condition
  | .seq exprs | .either exprs => Expr.anyAnchorAmong isWanted exprs
  | .repeated a _ _ _ | .captured a => a.anyAnchor isWanted

def Expr.anyAnchorAmong (isWanted : Anchor → Bool) : List Expr → Bool
  | [] => false
  | expr :: rest => expr.anyAnchor isWanted || Expr.anyAnchorAmong isWanted rest

end

/-- Whether the condition holds between the characters before (the nearest first) and after. -/
def Anchor.holds (anchor : Anchor) (before after : List Char) : Bool :=
  let wordBefore (chars : CharSet) : Bool := before.head?.any chars.has
  let wordAfter (chars : CharSet) : Bool := after.head?.any chars.has
  match anchor with
  | .textStart => before.isEmpty
  | .textEnd => after.isEmpty
  | .lineStart => before.isEmpty || before.head? == some '\n'
  | .lineEnd => after.isEmpty || after.head? == some '\n'
  | .windowsLineStart =>
    before.isEmpty || before.head? == some '\n' ||
      (before.head? == some '\r' && after.head? != some '\n')
  | .windowsLineEnd =>
    after.isEmpty || after.head? == some '\r' ||
      (after.head? == some '\n' && before.head? != some '\r')
  | .wordBoundary chars => wordBefore chars != wordAfter chars
  | .noWordBoundary chars => wordBefore chars == wordAfter chars
  | .wordStart chars => !wordBefore chars && wordAfter chars
  | .wordEnd chars => wordBefore chars && !wordAfter chars
  | .wordStartHalf chars => !wordBefore chars
  | .wordEndHalf chars => !wordAfter chars

def placesWhere (holds : List Char → List Char → Bool) (before after : List Char) : Nat :=
  let here := if holds before after then 1 else 0
  match after with
  | [] => here
  | c :: rest => here + 2 * placesWhere holds (c :: before) rest

def placesBefore (isWanted : Char → Bool) (text : List Char) : Nat :=
  placesWhere (fun _ after => after.head?.any isWanted) [] text

inductive Walk where
  | keep (places : Nat)
  | take (places : Nat)
  | seq (parts : List Walk)
  | either (choices : List Walk)
  | repeated (a : Walk) (least : Nat) (most : Option Nat)
  deriving Repr

mutual

def Expr.on (text : List Char) : Expr → Walk
  | .empty => .seq []
  | .literal chars => .seq (chars.map fun c => .take (placesBefore (· == c) text))
  | .char chars _ => .take (placesBefore chars.has text)
  | .anchor condition => .keep (placesWhere condition.holds [] text)
  | .seq parts => .seq (Expr.allOn text parts)
  | .either choices => .either (Expr.allOn text choices)
  | .repeated a least most _ => .repeated (a.on text) least most
  | .captured a => a.on text

def Expr.allOn (text : List Char) : List Expr → List Walk
  | [] => []
  | expr :: rest => expr.on text :: Expr.allOn text rest

end

/-- All places reached by repeating a step, the start included, found in so many rounds. -/
def closure (step : Nat → Nat) : Nat → Nat → Nat
  | 0, places => places
  | rounds + 1, places =>
    let more := places ||| step places
    if more = places then places else closure step rounds more

/-- The places reached by taking a step exactly so often. A step that changes nothing need not be
taken again. -/
def iterate (step : Nat → Nat) : Nat → Nat → Nat
  | 0, places => places
  | count + 1, places =>
    let next := step places
    if next = places then places else iterate step count next

def iterateUpTo (step : Nat → Nat) : Nat → Nat → Nat
  | 0, places => places
  | count + 1, places =>
    let next := step places
    if next = places then places else places ||| iterateUpTo step count next

mutual

/-- Where matches that begin at one of the places may end, in a text of some length. -/
def Walk.ends (length : Nat) : Walk → Nat → Nat
  | .keep here, places => places &&& here
  | .take here, places => (places &&& here) <<< 1
  | .seq parts, places => Walk.endsOfAll length parts places
  | .either choices, places => Walk.endsOfAny length choices places
  | .repeated a least most, places =>
    let begun := iterate (a.ends length) least places
    match most with
    | none => closure (a.ends length) (length + 1) begun
    | some most => iterateUpTo (a.ends length) (most - least) begun

def Walk.endsOfAll (length : Nat) : List Walk → Nat → Nat
  | [], places => places
  | walk :: rest, places => Walk.endsOfAll length rest (walk.ends length places)

def Walk.endsOfAny (length : Nat) : List Walk → Nat → Nat
  | [], _ => 0
  | walk :: rest, places => walk.ends length places ||| Walk.endsOfAny length rest places

end

def Expr.isFoundIn (expr : Expr) (text : String) : Bool :=
  let cs := text.toList
  (expr.on cs).ends cs.length (Nat.pow 2 (cs.length + 1) - 1) != 0

end EventCapture.Regex
