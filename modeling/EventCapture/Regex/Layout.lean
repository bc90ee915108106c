import EventCapture.Regex.ByteRanges
import EventCapture.Regex.Composition

/-! What an automaton that searches for an expression is made of.

A layout says which states are needed for each part of an expression, and how the parts stand to
each other; it differs for an automaton that reads a text from its end. A choice among words is laid
out as a tree, where words that begin alike share states as long as none of the words between them
ends there. -/

set_option autoImplicit false

namespace EventCapture.Regex

inductive Direction where
  | forward
  | backward
  deriving DecidableEq, Repr

inductive Layout where
  | block (states extra : Nat)
  | char (pieces : List ByteRanges)
  | captured (a : Layout)
  | seq (parts : List Layout)
  | either (choices : List Layout)
  | repeated (a : Layout) (takesSome : Bool) (least : Nat) (most : Option Nat)
  deriving Repr

def branchSize : Nat := 4

def rangeSize : Nat := 8

def Direction.ordered {α : Type} (direction : Direction) (items : List α) : List α :=
  match direction with
  | .forward => items
  | .backward => items.reverse

def bytesOf (chars : List Char) : List Nat :=
  chars.flatMap fun c => encoded c.toNat

/-- What is left of the words that lead to one node of a tree, in their order. -/
abbrev WordNode := List (List Nat)

namespace WordNode

/-- The words between those that end at the node. Where no word has gone on yet, one end is as good
as several. -/
def stretches (node : WordNode) : List WordNode :=
  let node := match node.span List.isEmpty with
    | ([], words) => words
    | (_, words) => [] :: words
  node.foldr (fun word found =>
    match word, found with
    | [], found => [] :: found
    | word, stretch :: later => (word :: stretch) :: later
    | word, [] => [[word]]) [[]]

/-- The nodes to which words lead that do not end here, by their first bytes. -/
def next (stretch : WordNode) : List WordNode :=
  let ordered := stretch.mergeSort fun a b => a.headD 0 ≤ b.headD 0
  (ordered.splitBy fun a b => a.headD 0 == b.headD 0).map (·.map List.tail)

def cost (node : WordNode) : Nat × Nat :=
  let counts := node.stretches.map fun stretch => stretch.next.length
  let taken := counts.filter (· ≠ 0)
  (taken.length + 1,
    branchSize * (taken.length + (counts.length - 1)) +
      rangeSize * (taken.filter (· ≠ 1)).foldl (· + ·) 0)

/-- The cost of nodes and of all below them, in a tree of a certain height. -/
def costOfAll : Nat → List WordNode → Nat × Nat → Nat × Nat
  | 0, _, sum => sum
  | height + 1, nodes, sum =>
    let inner := nodes.filter (·.any fun word => !word.isEmpty)
    costOfAll height (inner.flatMap fun node => node.stretches.flatMap next)
      (inner.foldl (fun sum node => (sum.1 + node.cost.1, sum.2 + node.cost.2)) sum)

end WordNode

def Layout.ofWords (words : WordNode) : Layout :=
  let (states, extra) := WordNode.costOfAll ((words.map List.length).foldl max 0) [words] (1, 0)
  .block states extra

def Layout.ofSet (chars : CharSet) : Layout :=
  if chars.ranges.all (·.2 ≤ 0x7F) then .block 2 (rangeSize * chars.ranges.length)
  else .char (piecesOfSet chars)

namespace Expr

mutual

/-- Whether every match takes a character; unknown where a part cannot match at all. -/
def takesSome? : Expr → Option Bool
  | .empty | .anchor _ => some false
  | .literal _ => some true
  | .char chars _ => if chars.changes.isEmpty then none else some true
  | .seq exprs => do some ((← takeSome? exprs).any id)
  | .either exprs => do some ((← takeSome? exprs).all id)
  | .repeated a least _ _ => do some ((← a.takesSome?) && least != 0)
  | .captured a => a.takesSome?

def takeSome? : List Expr → Option (List Bool)
  | [] => some []
  | expr :: rest => do some ((← expr.takesSome?) :: (← takeSome? rest))

end

def chars? : Expr → Option (List Char)
  | .literal chars => some chars
  | _ => none

mutual

/-- The layout of an expression. Only forward are the limits of captured parts kept. -/
def layout (direction : Direction) : Expr → Layout
  | .empty | .anchor _ => .block 1 0
  | .literal chars => .block (bytesOf chars).length 0
  | .char chars _ => .ofSet chars
  | .seq exprs => .seq (direction.ordered (layouts direction exprs))
  | .either exprs =>
    match exprs.mapM chars? with
    | some words => .ofWords (words.map fun chars => direction.ordered (bytesOf chars))
    | none => .either (layouts direction exprs)
  | .repeated a least most _ =>
    .repeated (a.layout direction) (a.takesSome? == some true) least most
  | .captured a =>
    match direction with
    | .forward => .captured (a.layout direction)
    | .backward => a.layout direction

def layouts (direction : Direction) : List Expr → List Layout
  | [] => []
  | expr :: rest => expr.layout direction :: layouts direction rest

end

end Expr

end EventCapture.Regex
