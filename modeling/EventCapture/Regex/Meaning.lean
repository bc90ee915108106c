import EventCapture.Regex.Composition
import EventCapture.Regex.Folding
import EventCapture.Regex.Node
import EventCapture.Regex.Property

/-! What a written pattern means under its flags.

Where case is ignored a class is taken together with its case variants before it is negated and
before a set operation is applied to it. A pattern restricted to ASCII must not match a part of
another character, so that it has no negated classes, no dot and no properties there.
-/

set_option autoImplicit false

namespace EventCapture.Regex

structure Flags where
  ignoreCase : Bool
  multiLine : Bool
  dotAll : Bool
  windowsLines : Bool
  allScripts : Bool
  lazy : Bool
  deriving Repr

namespace Flags

def initial : Flags := ⟨false, false, false, false, true, false⟩

def change (flags : Flags) (entry : Flag × Bool) : Flags :=
  match entry with
  | (.ignoreCase, on) => { flags with ignoreCase := on }
  | (.multiLine, on) => { flags with multiLine := on }
  | (.dotAll, on) => { flags with dotAll := on }
  | (.windowsLines, on) => { flags with windowsLines := on }
  | (.allScripts, on) => { flags with allScripts := on }
  | (.lazy, on) => { flags with lazy := on }
  | (.verbose, _) => flags

def changeAll (flags : Flags) (changes : FlagChanges) : Flags :=
  changes.foldl change flags

def cased (flags : Flags) (chars : CharSet) : CharSet :=
  if !flags.ignoreCase then chars
  else if flags.allScripts then folded foldPairs chars
  else folded asciiFoldPairs chars

def ascii : CharSet := .range 0 0x7F

/-- A set, negated if so. Without scripts it must stay within ASCII. -/
def negated? (flags : Flags) (negated : Bool) (chars : CharSet) : Option CharSet :=
  let chars := if negated then chars.complement else chars
  if flags.allScripts || (chars.diff ascii).changes.isEmpty then some chars else none

def wordChars (flags : Flags) : CharSet :=
  if flags.allScripts then word else .table ["30-39 41-5A 5F 61-7A"]

def shorthand (flags : Flags) (kind : Shorthand) : CharSet :=
  match kind with
  | .word => flags.wordChars
  | .digit => if flags.allScripts then digit else .table ["30-39"]
  | .blank => if flags.allScripts then blank else .table ["9-D 20"]

def english? (name : String) : Option CharSet :=
  match name with
  | "alnum" => some (.table ["30-39 41-5A 61-7A"])
  | "alpha" => some (.table ["41-5A 61-7A"])
  | "ascii" => some ascii
  | "blank" => some (.table ["9 20"])
  | "cntrl" => some (.table ["0-1F 7F"])
  | "digit" => some (.table ["30-39"])
  | "graph" => some (.table ["21-7E"])
  | "lower" => some (.table ["61-7A"])
  | "print" => some (.table ["20-7E"])
  | "punct" => some (.table ["21-2F 3A-40 5B-60 7B-7E"])
  | "space" => some (.table ["9-D 20"])
  | "upper" => some (.table ["41-5A"])
  | "word" => some (.table ["30-39 41-5A 5F 61-7A"])
  | "xdigit" => some (.table ["30-39 41-46 61-66"])
  | _ => none

def named? (flags : Flags) (chars : NamedClass) : Option CharSet :=
  match chars with
  | .shorthand kind negated => flags.negated? negated (flags.shorthand kind)
  | .property query negated =>
    if !flags.allScripts then none
    else do
      let chars ← match query with
        | .named name => Property.named? name
        | .valued name value => Property.valued? name value
      flags.negated? negated (flags.cased chars)

/-- The character of a literal. Without scripts two digits beyond ASCII would mean half a
character. -/
def literal? (flags : Flags) (literal : Literal) : Option Char :=
  if !flags.allScripts && literal.mayBeByte && 0x7F < literal.char.toNat then none
  else some literal.char

def range? (flags : Flags) (first last : Literal) : Option CharSet := do
  let first ← flags.literal? first
  let last ← flags.literal? last
  let chars := CharSet.range first.toNat last.toNat
  if flags.allScripts || last.toNat ≤ 0x7F then some chars else none

mutual

def chars? (flags : Flags) : ClassNode → Option CharSet
  | .nothing => some .empty
  | .literal literal => flags.range? literal literal
  | .range first last => flags.range? first last
  | .english name negated => do
    flags.negated? negated (flags.cased (← english? (String.ofList name)))
  | .named chars => flags.named? chars
  | .bracket negated body => do flags.negated? negated (flags.cased (← flags.chars? body))
  | .union items => flags.charsOfAny? items
  | .operation kind a b => do
    let a := flags.cased (← flags.chars? a)
    let b := flags.cased (← flags.chars? b)
    some (match kind with
      | .inter => a.inter b
      | .diff => a.diff b
      | .symmDiff => a.symmDiff b)

def charsOfAny? (flags : Flags) : List ClassNode → Option CharSet
  | [] => some .empty
  | item :: rest => do some ((← flags.chars? item).union (← flags.charsOfAny? rest))

end

def dot? (flags : Flags) : Option CharSet :=
  flags.negated? true
    (if flags.dotAll then .empty
      else if flags.windowsLines then .table ["A D"]
      else .table ["A"])

def anchor (flags : Flags) (kind : Condition) : Anchor :=
  match kind with
  | .lineStart =>
    if !flags.multiLine then .textStart
    else if flags.windowsLines then .windowsLineStart else .lineStart
  | .lineEnd =>
    if !flags.multiLine then .textEnd
    else if flags.windowsLines then .windowsLineEnd else .lineEnd
  | .textStart => .textStart
  | .textEnd => .textEnd
  | .wordBoundary => .wordBoundary flags.wordChars
  | .noWordBoundary => .noWordBoundary flags.wordChars
  | .wordStart => .wordStart flags.wordChars
  | .wordEnd => .wordEnd flags.wordChars
  | .wordStartHalf => .wordStartHalf flags.wordChars
  | .wordEndHalf => .wordEndHalf flags.wordChars

end Flags

mutual

def Node.expr? (flags : Flags) : Node → Option (Expr × Flags)
  | .empty => some (.empty, flags)
  | .flags changes => some (.empty, flags.changeAll changes)
  | .literal one => do
    some (.ofSet (flags.cased (.single (← flags.literal? one))) flags.allScripts, flags)
  | .dot => do some (.ofSet (← flags.dot?) flags.allScripts, flags)
  | .condition kind => some (.anchor (flags.anchor kind), flags)
  | .named chars => do some (.ofSet (← flags.named? chars) flags.allScripts, flags)
  | .bracket negated body => do
    let chars ← flags.negated? negated (flags.cased (← flags.chars? body))
    some (.ofSet chars flags.allScripts, flags)
  | .repeated node least most marked => do
    let (expr, after) ← node.expr? flags
    some (.ofRepeated expr least most (flags.lazy != marked), after)
  | .group captures changes node => do
    let (expr, _) ← node.expr? (flags.changeAll changes)
    some (if captures then .captured expr else expr, flags)
  | .seq nodes => do
    let (parts, flags) ← Node.exprs? flags nodes
    some (.ofSequence parts, flags)
  | .either nodes => do
    let (choices, flags) ← Node.exprs? flags nodes
    some (.ofChoices choices, flags)

/-- The expressions that several patterns mean. What one changes holds in the later ones too. -/
def Node.exprs? (flags : Flags) : List Node → Option (List Expr × Flags)
  | [] => some ([], flags)
  | node :: rest => do
    let (first, flags) ← node.expr? flags
    let (others, flags) ← Node.exprs? flags rest
    some (first :: others, flags)

end

end EventCapture.Regex
