import EventCapture.Regex.Node
import EventCapture.Text.Alphanumeric
import EventCapture.Text.Blank

/-! Reading the notation of patterns.

Each reader takes characters and gives what it read together with the rest. In a verbose pattern
blanks and comments do not count between the parts of nearly every construct; where `skip` is called
they may stand.
-/

set_option autoImplicit false

namespace EventCapture.Regex

/-- The rest after blanks and comments, from inside a comment if so. A comment goes from a number
sign to the end of its line. -/
def skipBlanks : Bool → List Char → List Char
  | _, [] => []
  | true, c :: rest => skipBlanks (c != '\n') rest
  | false, c :: rest =>
    if Text.isBlank c then skipBlanks false rest
    else if c == '#' then skipBlanks true rest
    else c :: rest

def skip (verbose : Bool) (cs : List Char) : List Char :=
  if verbose then skipBlanks false cs else cs

theorem length_skipBlanks_le (comment : Bool) (cs : List Char) :
    (skipBlanks comment cs).length ≤ cs.length := by
  fun_induction skipBlanks comment cs <;> simp <;> omega

theorem length_skip_le (verbose : Bool) (cs : List Char) :
    (skip verbose cs).length ≤ cs.length := by
  unfold skip
  split
  · exact length_skipBlanks_le false cs
  · exact Nat.le_refl _

/-- The character that decides whether a dash leads to the end of a range. Blanks before it do not
count in a verbose pattern, and neither does one number sign. -/
def glimpse (verbose : Bool) (cs : List Char) : Option Char :=
  if !verbose then cs.head?
  else match cs.dropWhile Text.isBlank with
    | '#' :: rest => (rest.dropWhile Text.isBlank).head?
    | rest => rest.head?

def braced? (verbose : Bool) (cs : List Char) : Option (List Char × List Char) :=
  match _h : skip verbose cs with
  | [] => none
  | c :: rest =>
    if c == '\x7d' then some ([], rest)
    else (braced? verbose rest).map fun found => (c :: found.1, found.2)
  termination_by cs.length
  decreasing_by
    have shorter := length_skip_le verbose cs
    simp only [_h, List.length_cons] at shorter
    omega

def counted? (verbose : Bool) : Nat → List Char → Option (List Char × List Char)
  | 0, cs => some ([], cs)
  | count + 1, cs =>
    match skip verbose cs with
    | [] => none
    | c :: rest => (counted? verbose count rest).map fun found => (c :: found.1, found.2)

/-- The characters that count, as long as they are of a kind, and the rest after them and after what
does not count. -/
def countedWhile (verbose : Bool) (isWanted : Char → Bool) (cs : List Char) :
    List Char × List Char :=
  match _h : skip verbose cs with
  | [] => ([], [])
  | c :: rest =>
    if isWanted c then
      let found := countedWhile verbose isWanted rest
      (c :: found.1, found.2)
    else ([], c :: rest)
  termination_by cs.length
  decreasing_by
    have shorter := length_skip_le verbose cs
    simp only [_h, List.length_cons] at shorter
    omega

def hexValue? (c : Char) : Option Nat :=
  if '0' ≤ c ∧ c ≤ '9' then some (c.toNat - '0'.toNat)
  else if 'a' ≤ c ∧ c ≤ 'f' then some (c.toNat - 'a'.toNat + 10)
  else if 'A' ≤ c ∧ c ≤ 'F' then some (c.toNat - 'A'.toNat + 10)
  else none

def scalarOfHex? (digits : List Char) : Option Char := do
  let value ← digits.foldl (fun value c => do some ((← value) * 16 + (← hexValue? c))) (some 0)
  if value.isValidChar then some (Char.ofNat value) else none

/-- A character by its code point: so many digits in base sixteen, or any number of them in
braces. -/
def hexEscape? (verbose : Bool) (width : Nat) (cs : List Char) : Option (Literal × List Char) :=
  match skip verbose cs with
  | '\x7b' :: rest => do
    let (digits, rest) ← braced? verbose rest
    if digits.isEmpty then none else some (⟨← scalarOfHex? digits, false⟩, rest)
  | cs => do
    let (digits, rest) ← counted? verbose width cs
    some (⟨← scalarOfHex? digits, width == 2⟩, rest)

def cutAt? (mark : List Char) : List Char → Option (List Char × List Char)
  | [] => none
  | c :: rest =>
    if mark.isPrefixOf (c :: rest) then some ([], (c :: rest).drop mark.length)
    else (cutAt? mark rest).map fun parts => (c :: parts.1, parts.2)

/-- The class named in braces: by a name alone, or by a property and a value that is to be equal or
unequal. -/
def NamedClass.ofProperty (negated : Bool) (text : List Char) : NamedClass :=
  match cutAt? ['!', '='] text with
  | some (name, value) => .property (.valued name value) (!negated)
  | none =>
    match cutAt? [':'] text <|> cutAt? ['='] text with
    | some (name, value) => .property (.valued name value) negated
    | none => .property (.named text) negated

def propertyEscape? (verbose negated : Bool) (cs : List Char) : Option (NamedClass × List Char) :=
  match skip verbose cs with
  | [] | '\\' :: _ => none
  | '\x7b' :: rest => do
    let (text, rest) ← braced? verbose rest
    some (.ofProperty negated text, rest)
  | c :: rest => some (.property (.named [c]) negated, rest)

inductive Escape where
  | literal (literal : Literal)
  | named (chars : NamedClass)
  | condition (kind : Condition)

/-- A word boundary, possibly of a special kind named in braces. Braces that hold something else are
left to be read as a count. -/
def boundaryEscape? (verbose : Bool) (cs : List Char) : Option (Condition × List Char) :=
  let isNameChar (c : Char) : Bool := c.isAlpha || c == '-'
  match cs with
  | '\x7b' :: rest =>
    match countedWhile verbose isNameChar rest with
    | ([], []) => none
    | ([], _) => some (.wordBoundary, cs)
    | (name, '\x7d' :: rest) =>
      match String.ofList name with
      | "start" => some (.wordStart, rest)
      | "end" => some (.wordEnd, rest)
      | "start-half" => some (.wordStartHalf, rest)
      | "end-half" => some (.wordEndHalf, rest)
      | _ => none
    | _ => none
  | _ => some (.wordBoundary, cs)

def escape? (verbose : Bool) (cs : List Char) : Option (Escape × List Char) :=
  let literal (c : Char) : Escape := .literal ⟨c, false⟩
  let hex (width : Nat) (rest : List Char) : Option (Escape × List Char) :=
    (hexEscape? verbose width rest).map fun found => (.literal found.1, found.2)
  let property (negated : Bool) (rest : List Char) : Option (Escape × List Char) :=
    (propertyEscape? verbose negated rest).map fun found => (.named found.1, found.2)
  match cs with
  | [] => none
  | c :: rest =>
    match c with
    | 'd' => some (.named (.shorthand .digit false), rest)
    | 's' => some (.named (.shorthand .blank false), rest)
    | 'w' => some (.named (.shorthand .word false), rest)
    | 'D' => some (.named (.shorthand .digit true), rest)
    | 'S' => some (.named (.shorthand .blank true), rest)
    | 'W' => some (.named (.shorthand .word true), rest)
    | 'p' => property false rest
    | 'P' => property true rest
    | 'x' => hex 2 rest
    | 'u' => hex 4 rest
    | 'U' => hex 8 rest
    | 'b' => (boundaryEscape? verbose rest).map fun found => (.condition found.1, found.2)
    | 'B' => some (.condition .noWordBoundary, rest)
    | 'A' => some (.condition .textStart, rest)
    | 'z' => some (.condition .textEnd, rest)
    | '<' => some (.condition .wordStart, rest)
    | '>' => some (.condition .wordEnd, rest)
    | 'a' => some (literal '\x07', rest)
    | 'f' => some (literal '\x0c', rest)
    | 't' => some (literal '\t', rest)
    | 'n' => some (literal '\n', rest)
    | 'r' => some (literal '\r', rest)
    | 'v' => some (literal '\x0b', rest)
    | _ => if c.toNat < 128 && !c.isAlphanum then some (literal c, rest) else none

def englishNames : List String :=
  ["alnum", "alpha", "ascii", "blank", "cntrl", "digit", "graph", "lower", "print", "punct",
   "space", "upper", "word", "xdigit"]

def englishClass? (cs : List Char) : Option (ClassNode × List Char) :=
  match cs with
  | ':' :: rest =>
    let (negated, rest) := match rest with
      | '^' :: rest => (true, rest)
      | _ => (false, rest)
    let name := rest.takeWhile (· != ':')
    match rest.drop name.length with
    | ':' :: ']' :: rest =>
      if englishNames.contains (String.ofList name) then some (.english name negated, rest)
      else none
    | _ => none
  | _ => none

def classItem? (verbose : Bool) (cs : List Char) : Option (Escape × List Char) :=
  match cs with
  | [] => none
  | '\\' :: rest => escape? verbose rest
  | c :: rest => some (.literal ⟨c, false⟩, rest)

/-- One character, one named class or a range inside brackets. A dash before a closing bracket or
before another dash makes no range. -/
def classRange? (verbose : Bool) (cs : List Char) : Option (ClassNode × List Char) := do
  let (first, rest) ← classItem? verbose cs
  match skip verbose rest with
  | [] => none
  | c :: after =>
    let next := glimpse verbose after
    if c != '-' || next == some ']' || next == some '-' then
      match first with
      | .literal literal => some (.literal literal, c :: after)
      | .named chars => some (.named chars, c :: after)
      | .condition _ => none
    else do
      match first, ← classItem? verbose (skip verbose after) with
      | .literal low, (.literal high, rest) =>
        if high.char < low.char then none else some (.range low high, rest)
      | _, _ => none

def leadingDashes (verbose : Bool) (cs : List Char) : List ClassNode × List Char :=
  let (dashes, rest) := countedWhile verbose (· == '-') cs
  (dashes.map fun dash => .literal ⟨dash, false⟩, rest)

abbrev PendingOperation := Option (SetOperation × ClassNode)

/-- The class so far: the operation that was begun, applied to the items after it, given the last
one first. -/
def closeOperation (pending : PendingOperation) (items : List ClassNode) : ClassNode :=
  let after := ClassNode.ofItems items.reverse
  match pending with
  | some (kind, before) => .operation kind before after
  | none => after

mutual

/-- A class after its opening bracket. The second number bounds how deep brackets may still be
nested. -/
def bracket? : Nat → Nat → Bool → List Char → Option (Bool × ClassNode × List Char)
  | 0, _, _, _ => none
  | _, 0, _, _ => none
  | fuel + 1, levels + 1, verbose, cs => do
    let cs := skip verbose cs
    let (negated, cs) := match cs with
      | '^' :: rest => (true, skip verbose rest)
      | _ => (false, cs)
    let (dashes, cs) := leadingDashes verbose cs
    let (items, cs) := match dashes, cs with
      | [], ']' :: rest => ([ClassNode.literal ⟨']', false⟩], skip verbose rest)
      | _, _ => (dashes.reverse, cs)
    let (body, rest) ← classBody? fuel levels verbose none items cs
    some (negated, body, rest)

def classBody? : Nat → Nat → Bool → PendingOperation → List ClassNode → List Char →
    Option (ClassNode × List Char)
  | 0, _, _, _, _, _ => none
  | fuel + 1, levels, verbose, pending, items, cs =>
    let begin (kind : SetOperation) : PendingOperation := some (kind, closeOperation pending items)
    match skip verbose cs with
    | [] => none
    | ']' :: rest => some (closeOperation pending items, rest)
    | '&' :: '&' :: rest => classBody? fuel levels verbose (begin .inter) [] rest
    | '-' :: '-' :: rest => classBody? fuel levels verbose (begin .diff) [] rest
    | '~' :: '~' :: rest => classBody? fuel levels verbose (begin .symmDiff) [] rest
    | '[' :: rest =>
      match englishClass? rest with
      | some (chars, rest) => classBody? fuel levels verbose pending (chars :: items) rest
      | none => do
        let (negated, body, rest) ← bracket? fuel levels verbose rest
        classBody? fuel levels verbose pending (.bracket negated body :: items) rest
    | cs => do
      let (item, rest) ← classRange? verbose cs
      classBody? fuel levels verbose pending (item :: items) rest

end

def Flag.ofLetter? (c : Char) : Option Flag :=
  match c with
  | 'i' => some .ignoreCase
  | 'm' => some .multiLine
  | 's' => some .dotAll
  | 'x' => some .verbose
  | 'R' => some .windowsLines
  | 'u' => some .allScripts
  | 'U' => some .lazy
  | _ => none

/-- Changes of flags up to a colon or a closing parenthesis, which is given as well. A flag may be
named once, a dash once, and a flag must follow the dash. -/
def flagChanges? (done : FlagChanges) (dash : Bool) (on : Bool) :
    List Char → Option (FlagChanges × Char × List Char)
  | [] => none
  | c :: rest =>
    if c == ':' || c == ')' then
      if dash then none else some (done.reverse, c, rest)
    else if c == '-' then
      if on then flagChanges? done true false rest else none
    else match Flag.ofLetter? c with
      | some flag =>
        if done.any (·.1 == flag) then none else flagChanges? ((flag, on) :: done) false on rest
      | none => none

def verboseAfter (verbose : Bool) (changes : FlagChanges) : Bool :=
  match changes.find? (·.1 == .verbose) with
  | some change => change.2
  | none => verbose

/-- The name of a group up to its closing bracket: a letter or an underscore, then letters, numbers,
underscores, dots and brackets. -/
def groupName? (cs : List Char) : Option (List Char × List Char) :=
  let name := cs.takeWhile (· != '>')
  let isLater (c : Char) : Bool :=
    c == '_' || c == '.' || c == '[' || c == ']' || Text.isAlphanumeric c
  match name, cs.drop name.length with
  | first :: later, _ :: rest =>
    if (first == '_' || Text.isAlphabetic first) && later.all isLater then some (name, rest)
    else none
  | _, _ => none

inductive GroupHead where
  | captures (name : Option (List Char))
  | scopes (changes : FlagChanges)
  | sets (changes : FlagChanges)

def groupHead? (verbose : Bool) (cs : List Char) : Option (GroupHead × List Char) :=
  let named (cs : List Char) : Option (GroupHead × List Char) :=
    (groupName? cs).map fun found => (.captures (some found.1), found.2)
  match skip verbose cs with
  | '?' :: 'P' :: '<' :: rest => named rest
  | '?' :: '<' :: '=' :: _ | '?' :: '<' :: '!' :: _ => none
  | '?' :: '<' :: rest => named rest
  | '?' :: ')' :: _ => none
  | '?' :: rest => do
    let (changes, stop, rest) ← flagChanges? [] false true rest
    some (if stop == ':' then .scopes changes else .sets changes, rest)
  | cs => some (.captures none, cs)

def greatestCount : Nat := 4294967295

def count? (verbose : Bool) (cs : List Char) : Option (Nat × List Char) :=
  let (digits, rest) := countedWhile verbose Char.isDigit (cs.dropWhile Text.isBlank)
  let value := digits.foldl (fun value c => value * 10 + (c.toNat - '0'.toNat)) 0
  if digits.isEmpty || greatestCount < value then none
  else some (value, skip verbose (rest.dropWhile Text.isBlank))

def counts? (verbose : Bool) (cs : List Char) : Option (Nat × Option Nat × List Char) := do
  let (least, rest) ← count? verbose (skip verbose cs)
  match rest with
  | '\x7d' :: rest => some (least, some least, rest)
  | ',' :: rest =>
    match skip verbose rest with
    | '\x7d' :: rest => some (least, none, rest)
    | rest => do
      let (most, rest) ← count? verbose rest
      match rest with
      | '\x7d' :: rest => if most < least then none else some (least, some most, rest)
      | _ => none
  | _ => none

/-- Repeat the last part; there must be one that can be repeated. The last part comes first. A
mark may follow. -/
def repeatLast? (parts : List Node) (least : Nat) (most : Option Nat) (cs : List Char) :
    Option (List Node × List Char) :=
  let (marked, rest) := match cs with
    | '?' :: rest => (true, rest)
    | _ => (false, cs)
  match parts with
  | last :: before =>
    if last.isRepeatable then some (.repeated last least most marked :: before, rest) else none
  | [] => none

def atom? (verbose : Bool) (c : Char) (rest : List Char) : Option (Node × List Char) :=
  match c with
  | '.' => some (.dot, rest)
  | '^' => some (.condition .lineStart, rest)
  | '$' => some (.condition .lineEnd, rest)
  | '\\' => do
    match ← escape? verbose rest with
    | (.literal literal, rest) => some (.literal literal, rest)
    | (.named chars, rest) => some (.named chars, rest)
    | (.condition kind, rest) => some (.condition kind, rest)
  | _ => some (.literal ⟨c, false⟩, rest)

/-- What reading keeps track of: whether blanks count, and the names of the groups so far. -/
structure Reading where
  verbose : Bool
  names : List (List Char)

def Reading.enter? (reading : Reading) (head : GroupHead) : Option Reading :=
  match head with
  | .captures (some name) =>
    if reading.names.contains name then none
    else some { reading with names := name :: reading.names }
  | .captures none => some reading
  | .scopes changes | .sets changes =>
    some { reading with verbose := verboseAfter reading.verbose changes }

mutual

/-- Alternatives up to the end of the group. What one changes holds in the later ones too. The
second number bounds how deep groups may still be nested. -/
def alternatives? : Nat → Nat → Reading → List Char → Option (List Node × Reading × List Char)
  | 0, _, _, _ => none
  | fuel + 1, levels, reading, cs => do
    let (first, reading, rest) ← parts? fuel levels reading [] cs
    match rest with
    | '|' :: rest =>
      let (others, reading, rest) ← alternatives? fuel levels reading rest
      some (first :: others, reading, rest)
    | _ => some ([first], reading, rest)

def parts? : Nat → Nat → Reading → List Node → List Char → Option (Node × Reading × List Char)
  | 0, _, _, _, _ => none
  | fuel + 1, levels, reading, done, cs =>
    let verbose := reading.verbose
    match skip verbose cs with
    | [] => some (.ofSequence done.reverse, reading, [])
    | '|' :: rest => some (.ofSequence done.reverse, reading, '|' :: rest)
    | ')' :: rest => some (.ofSequence done.reverse, reading, ')' :: rest)
    | '*' :: rest => do
      let (done, rest) ← repeatLast? done 0 none rest
      parts? fuel levels reading done rest
    | '+' :: rest => do
      let (done, rest) ← repeatLast? done 1 none rest
      parts? fuel levels reading done rest
    | '?' :: rest => do
      let (done, rest) ← repeatLast? done 0 (some 1) rest
      parts? fuel levels reading done rest
    | '\x7b' :: rest => do
      let (least, most, rest) ← counts? verbose rest
      let (done, rest) ← repeatLast? done least most (skip verbose rest)
      parts? fuel levels reading done rest
    | '[' :: rest => do
      let (negated, body, rest) ← bracket? fuel (deepest + 1) verbose rest
      parts? fuel levels reading (.bracket negated body :: done) rest
    | '(' :: rest => do
      let (head, rest) ← groupHead? verbose rest
      let inner ← reading.enter? head
      match head, levels with
      | .sets changes, _ => parts? fuel levels inner (.flags changes :: done) rest
      | _, 0 => none
      | head, levels + 1 =>
        let (choices, after, rest) ← alternatives? fuel levels inner rest
        match rest with
        | ')' :: rest =>
          let body := match choices with
            | [only] => only
            | _ => .either choices
          let node := match head with
            | .scopes changes => .group false changes body
            | _ => .group true [] body
          parts? fuel (levels + 1) { reading with names := after.names } (node :: done) rest
        | _ => none
    | c :: rest => do
      let (node, rest) ← atom? verbose c rest
      parts? fuel levels reading (node :: done) rest

end

/-- Read a pattern that is not nested too deep. Every step of the reading either consumes a
character or goes one level deeper, so that the steps are bounded by the length. -/
def Node.ofPattern? (pattern : String) : Option Node := do
  let cs := pattern.toList
  match ← alternatives? (4 * cs.length + 4) deepest ⟨false, []⟩ cs with
  | (choices, _, []) =>
    let node := match choices with
      | [only] => only
      | _ => .either choices
    if deepest < node.depth then none else some node
  | _ => none

end EventCapture.Regex
