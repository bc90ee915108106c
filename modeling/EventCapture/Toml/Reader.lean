import EventCapture.Toml.Scalar
import EventCapture.Toml.Tree

/-! Reading a whole document: lines with a key and a value, headers of tables, comments. A document
that breaks any rule is refused as a whole. -/

set_option autoImplicit false

namespace EventCapture.Toml

/-- How deep values may be nested, and how many parts a key may have. -/
def depthLimit : Nat := 80

def isBareKey (c : Char) : Bool := c.isAlphanum || c == '-' || c == '_'

def keyPart? (cs : List Char) : Option (String × List Char) :=
  match cs with
  | '"' :: rest =>
    (basicText? (rest.length + 1) [] rest).map fun found => (String.ofList found.1, found.2)
  | '\'' :: rest => (literalText? [] rest).map fun found => (String.ofList found.1, found.2)
  | _ =>
    let bare := cs.takeWhile isBareKey
    if bare.isEmpty then none else some (String.ofList bare, cs.drop bare.length)

/-- The parts of a key, with dots between them and spaces around each: all but the last, and the
last. -/
def key? : Nat → List Char → Option (List String × String × List Char)
  | 0, _ => none
  | fuel + 1, cs => do
    let (part, rest) ← keyPart? (skipSpaces cs)
    match skipSpaces rest with
    | '.' :: rest =>
      let (path, last, rest) ← key? fuel rest
      some (part :: path, last, rest)
    | rest => some ([], part, rest)

def limitedKey? (cs : List Char) : Option (List String × String × List Char) :=
  key? (depthLimit - 1) cs

def skipComment (cs : List Char) : List Char :=
  match cs with
  | '#' :: rest => rest.dropWhile isPlain
  | _ => cs

/-- What may stand after a value on its line: spaces and a comment, then the end of the line. -/
def lineEnd? (cs : List Char) : Option (List Char) :=
  match skipComment (skipSpaces cs) with
  | [] => some []
  | rest => newline? rest

def skipLines : Nat → List Char → List Char
  | 0, cs => cs
  | fuel + 1, cs =>
    match skipComment (skipSpaces cs) with
    | [] => []
    | c :: rest =>
      match newline? (c :: rest) with
      | some rest => skipLines fuel rest
      | none => c :: rest

mutual

def value? : Nat → Nat → List Char → Option (Document × List Char)
  | 0, _, _ => none
  | fuel + 1, depth, cs =>
    match cs with
    | '[' :: rest =>
      if depthLimit ≤ depth + 1 then none
      else (items? fuel (depth + 1) [] rest).map fun found => (.sequence found.1, found.2)
    | '\x7b' :: rest =>
      if depthLimit ≤ depth + 1 then none
      else match skipSpaces rest with
        | '\x7d' :: rest => some (.table [], rest)
        | rest => do
          let (members, rest) ← members? fuel (depth + 1) [] rest
          some (.table (Node.documentMembers members), rest)
    | _ => scalar? cs

/-- The items of an array up to its closing bracket; a comma may follow the last one. -/
def items? : Nat → Nat → List Document → List Char → Option (List Document × List Char)
  | 0, _, _, _ => none
  | fuel + 1, depth, read, cs =>
    match skipLines cs.length cs with
    | ']' :: rest => some (read.reverse, rest)
    | cs => do
      let (value, rest) ← value? fuel depth cs
      match skipLines rest.length rest with
      | ',' :: rest => items? fuel depth (value :: read) rest
      | ']' :: rest => some ((value :: read).reverse, rest)
      | _ => none

def members? : Nat → Nat → Members → List Char → Option (Members × List Char)
  | 0, _, _, _ => none
  | fuel + 1, depth, read, cs => do
    let (path, key, rest) ← limitedKey? cs
    match rest with
    | '=' :: rest =>
      let (value, rest) ← value? fuel depth (skipSpaces rest)
      let read ← read.insert path key value
      match skipSpaces rest with
      | ',' :: rest => members? fuel depth read rest
      | '\x7d' :: rest => some (read, rest)
      | _ => none
    | _ => none

end

def assignment? (draft : Draft) (cs : List Char) : Option (Draft × List Char) := do
  let (path, key, rest) ← limitedKey? cs
  match rest with
  | '=' :: rest =>
    let rest := skipSpaces rest
    let (value, rest) ← value? (rest.length + 1) 0 rest
    let rest ← lineEnd? rest
    some (← draft.insert path key value, rest)
  | _ => none

def header? (draft : Draft) (cs : List Char) : Option (Draft × List Char) :=
  match cs with
  | '[' :: rest => do
    let (path, key, rest) ← limitedKey? rest
    match rest with
    | ']' :: ']' :: rest =>
      let rest ← lineEnd? rest
      some (← draft.appendTable path key, rest)
    | _ => none
  | _ => do
    let (path, key, rest) ← limitedKey? cs
    match rest with
    | ']' :: rest =>
      let rest ← lineEnd? rest
      some (← draft.openTable path key, rest)
    | _ => none

def lines? : Nat → Draft → List Char → Option Draft
  | 0, _, _ => none
  | fuel + 1, draft, cs =>
    match skipComment (skipSpaces cs) with
    | [] => some draft
    | '[' :: rest => do
      let (draft, rest) ← header? draft rest
      lines? fuel draft rest
    | c :: rest =>
      match newline? (c :: rest) with
      | some rest => lines? fuel draft rest
      | none => do
        let (draft, rest) ← assignment? draft (c :: rest)
        lines? fuel draft rest

/-- Read a document. A mark of byte order may stand in front. -/
def parse? (text : String) : Option Document := do
  let cs := match text.toList with
    | '\ufeff' :: rest => rest
    | cs => cs
  let draft ← lines? (cs.length + 1) Draft.empty cs
  some (.table (Node.documentMembers (← draft.finish)))

end EventCapture.Toml
