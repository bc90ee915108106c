/-! Patterns as they are written, before flags give their parts a meaning.

A pattern may be nested only so deep; the depth counts groups, repetitions, classes in brackets with
what they consist of, and parts that stand beside others.
-/

set_option autoImplicit false

namespace EventCapture.Regex

inductive Flag where
  | ignoreCase
  | multiLine
  | dotAll
  | verbose
  | windowsLines
  | allScripts
  | lazy
  deriving DecidableEq, Repr

abbrev FlagChanges := List (Flag × Bool)

inductive Condition where
  | lineStart
  | lineEnd
  | textStart
  | textEnd
  | wordBoundary
  | noWordBoundary
  | wordStart
  | wordEnd
  | wordStartHalf
  | wordEndHalf
  deriving DecidableEq, Repr

/-- A character that stands for itself. Written with two digits in base sixteen it may also mean a
byte. -/
structure Literal where
  char : Char
  mayBeByte : Bool
  deriving DecidableEq, Repr

/-- The classes that one letter names. -/
inductive Shorthand where
  | digit
  | blank
  | word
  deriving DecidableEq, Repr

inductive PropertyQuery where
  | named (name : List Char)
  | valued (name value : List Char)
  deriving DecidableEq, Repr

inductive NamedClass where
  | shorthand (kind : Shorthand) (negated : Bool)
  | property (query : PropertyQuery) (negated : Bool)
  deriving DecidableEq, Repr

inductive SetOperation where
  | inter
  | diff
  | symmDiff
  deriving DecidableEq, Repr

inductive ClassNode where
  | nothing
  | literal (literal : Literal)
  | range (first last : Literal)
  | english (name : List Char) (negated : Bool)
  | named (chars : NamedClass)
  | bracket (negated : Bool) (body : ClassNode)
  | union (items : List ClassNode)
  | operation (kind : SetOperation) (a b : ClassNode)
  deriving Repr

inductive Node where
  | empty
  | flags (changes : FlagChanges)
  | literal (literal : Literal)
  | dot
  | condition (kind : Condition)
  | named (chars : NamedClass)
  | bracket (negated : Bool) (body : ClassNode)
  /-- The mark behind a repetition makes it lazy, or eager where repetitions are lazy. -/
  | repeated (node : Node) (least : Nat) (most : Option Nat) (marked : Bool)
  | group (captures : Bool) (changes : FlagChanges) (node : Node)
  | seq (nodes : List Node)
  | either (nodes : List Node)
  deriving Repr

mutual

def ClassNode.depth : ClassNode → Nat
  | .nothing | .literal _ | .range _ _ | .english _ _ | .named _ => 0
  | .bracket _ body => body.depth + 1
  | .union items => ClassNode.depthOfAll items + 1
  | .operation _ a b => max a.depth b.depth + 1

def ClassNode.depthOfAll : List ClassNode → Nat
  | [] => 0
  | node :: rest => max node.depth (ClassNode.depthOfAll rest)

end

mutual

def Node.depth : Node → Nat
  | .empty | .flags _ | .literal _ | .dot | .condition _ | .named _ => 0
  | .bracket _ body => body.depth + 1
  | .repeated node _ _ _ => node.depth + 1
  | .group _ _ node => node.depth + 1
  | .seq nodes | .either nodes => Node.depthOfAll nodes + 1

def Node.depthOfAll : List Node → Nat
  | [] => 0
  | node :: rest => max node.depth (Node.depthOfAll rest)

end

def deepest : Nat := 250

def Node.ofSequence (nodes : List Node) : Node :=
  match nodes with
  | [] => .empty
  | [node] => node
  | _ => .seq nodes

def ClassNode.ofItems (items : List ClassNode) : ClassNode :=
  match items with
  | [] => .nothing
  | [item] => item
  | _ => .union items

def Node.isRepeatable : Node → Bool
  | .empty | .flags _ => false
  | _ => true

end EventCapture.Regex
