import EventCapture.Document
import EventCapture.Time.Calendar

/-! The scalars of a document: texts, numbers, truth values, dates and times. Each reader takes the
characters that belong to its scalar and gives back the rest. -/

set_option autoImplicit false

namespace EventCapture.Toml

/-- A space or a tab. -/
def isSpace (c : Char) : Bool := c == ' ' || c == '\t'

def skipSpaces (cs : List Char) : List Char := cs.dropWhile isSpace

def isPlain (c : Char) : Bool := c == '\t' || (0x20 ≤ c.toNat && c.toNat != 0x7F)

def newline? (cs : List Char) : Option (List Char) :=
  match cs with
  | '\n' :: rest => some rest
  | '\r' :: '\n' :: rest => some rest
  | _ => none

def codePoint? (digits : List Char) : Option Char :=
  let value := digits.foldl (fun value c => value.bind fun value =>
    if '0' ≤ c ∧ c ≤ '9' then some (value * 16 + (c.toNat - '0'.toNat))
    else if 'a' ≤ c ∧ c ≤ 'f' then some (value * 16 + (c.toNat - 'a'.toNat + 10))
    else if 'A' ≤ c ∧ c ≤ 'F' then some (value * 16 + (c.toNat - 'A'.toNat + 10))
    else none) (some 0)
  value.bind fun value => if value.isValidChar then some (Char.ofNat value) else none

def escape? (cs : List Char) : Option (Char × List Char) :=
  match cs with
  | 'b' :: rest => some ('\x08', rest)
  | 't' :: rest => some ('\t', rest)
  | 'n' :: rest => some ('\n', rest)
  | 'f' :: rest => some ('\x0c', rest)
  | 'r' :: rest => some ('\r', rest)
  | '"' :: rest => some ('"', rest)
  | '\\' :: rest => some ('\\', rest)
  | 'u' :: rest =>
    if rest.length < 4 then none else (codePoint? (rest.take 4)).map (·, rest.drop 4)
  | 'U' :: rest =>
    if rest.length < 8 then none else (codePoint? (rest.take 8)).map (·, rest.drop 8)
  | _ => none

def basicText? : Nat → List Char → List Char → Option (List Char × List Char)
  | 0, _, _ => none
  | fuel + 1, read, cs =>
    match cs with
    | '"' :: rest => some (read.reverse, rest)
    | '\\' :: rest => do
      let (c, rest) ← escape? rest
      basicText? fuel (c :: read) rest
    | c :: rest => if isPlain c then basicText? fuel (c :: read) rest else none
    | [] => none

def literalText? : List Char → List Char → Option (List Char × List Char)
  | _, [] => none
  | read, c :: rest =>
    if c = '\'' then some (read.reverse, rest)
    else if isPlain c then literalText? (c :: read) rest else none

/-- Skip the rest of a line that ends in a backslash, and the blank lines after it. -/
def skipLineBreak? (cs : List Char) : Option (List Char) :=
  (newline? (skipSpaces cs)).map fun rest =>
    rest.dropWhile fun c => isSpace c || c == '\n' || c == '\r'

/-- Whether every carriage return in a run of blanks and line ends has its line feed. -/
def lineEndsPaired : List Char → Bool
  | '\r' :: '\n' :: rest => lineEndsPaired rest
  | c :: rest =>
    if c = '\r' then false
    else if isSpace c || c = '\n' then lineEndsPaired rest else true
  | [] => true

def quotesAhead (quote : Char) (cs : List Char) : Nat := (cs.takeWhile (· == quote)).length

/-- A text in triple double quotes, after the opening ones. Up to two quotes may stand right before
the closing ones. -/
def basicLines? : Nat → List Char → List Char → Option (List Char × List Char)
  | 0, _, _ => none
  | fuel + 1, read, cs =>
    match cs with
    | [] => none
    | '"' :: rest =>
      let quotes := quotesAhead '"' cs
      if 6 ≤ quotes then none
      else if 3 ≤ quotes then
        some (read.reverse ++ List.replicate (quotes - 3) '"', cs.drop quotes)
      else basicLines? fuel ('"' :: read) rest
    | '\\' :: rest =>
      match skipLineBreak? rest with
      | some after => if lineEndsPaired (skipSpaces rest) then basicLines? fuel read after else none
      | none => do
        let (c, rest) ← escape? rest
        basicLines? fuel (c :: read) rest
    | c :: rest =>
      match newline? cs with
      | some rest => basicLines? fuel ('\n' :: read) rest
      | none => if isPlain c then basicLines? fuel (c :: read) rest else none

def literalLines? : Nat → List Char → List Char → Option (List Char × List Char)
  | 0, _, _ => none
  | fuel + 1, read, cs =>
    match cs with
    | [] => none
    | '\'' :: rest =>
      let quotes := quotesAhead '\'' cs
      if 6 ≤ quotes then none
      else if 3 ≤ quotes then
        some (read.reverse ++ List.replicate (quotes - 3) '\'', cs.drop quotes)
      else literalLines? fuel ('\'' :: read) rest
    | c :: rest =>
      match newline? cs with
      | some rest => literalLines? fuel ('\n' :: read) rest
      | none => if isPlain c then literalLines? fuel (c :: read) rest else none

/-- The first line end of a text in triple quotes does not belong to it. -/
def skipNewline (cs : List Char) : List Char := (newline? cs).getD cs

def text? (cs : List Char) : Option (String × List Char) :=
  let found := match cs with
    | '"' :: '"' :: '"' :: rest => basicLines? (rest.length + 1) [] (skipNewline rest)
    | '"' :: rest => basicText? (rest.length + 1) [] rest
    | '\'' :: '\'' :: '\'' :: rest => literalLines? (rest.length + 1) [] (skipNewline rest)
    | '\'' :: rest => literalText? [] rest
    | _ => none
  found.map fun found => (String.ofList found.1, found.2)

/-- Digits of a class, the first one at once and an underscore only between two of them. -/
def digitsWhile (isDigit : Char → Bool) : List Char → List Char × List Char
  | '_' :: c :: rest =>
    if isDigit c then
      let (digits, rest) := digitsWhile isDigit rest
      (c :: digits, rest)
    else ([], '_' :: c :: rest)
  | c :: rest =>
    if isDigit c then
      let (digits, rest) := digitsWhile isDigit rest
      (c :: digits, rest)
    else ([], c :: rest)
  | [] => ([], [])

def digits? (isDigit : Char → Bool) (cs : List Char) : Option (List Char × List Char) :=
  match cs with
  | c :: _ => if isDigit c then some (digitsWhile isDigit cs) else none
  | [] => none

def sign (cs : List Char) : Bool × List Char :=
  match cs with
  | '-' :: rest => (true, rest)
  | '+' :: rest => (false, rest)
  | _ => (false, cs)

def wholeDigits? (cs : List Char) : Option (List Char × List Char) :=
  match cs with
  | '0' :: rest => some (['0'], rest)
  | _ => digits? Char.isDigit cs

def valueOf (base : Nat) (digits : List Char) : Nat :=
  digits.foldl (fun value c =>
    value * base + (if c.isDigit then c.toNat - '0'.toNat else c.toLower.toNat - 'a'.toNat + 10)) 0

def word? (value : Int) : Option Document :=
  if -(Nat.pow 2 63 : Int) ≤ value ∧ value < Nat.pow 2 63 then some (.integer value) else none

def integer? (cs : List Char) : Option (Document × List Char) :=
  let based (base : Nat) (isDigit : Char → Bool) (cs : List Char) :
      Option (Document × List Char) := do
    let (digits, rest) ← digits? isDigit cs
    some (← word? (valueOf base digits), rest)
  match cs with
  | '0' :: 'x' :: rest =>
    based 16 (fun c => c.isDigit || ('a' ≤ c && c ≤ 'f') || ('A' ≤ c && c ≤ 'F')) rest
  | '0' :: 'o' :: rest => based 8 (fun c => '0' ≤ c && c ≤ '7') rest
  | '0' :: 'b' :: rest => based 2 (fun c => c == '0' || c == '1') rest
  | _ => do
    let (negative, cs) := sign cs
    let (digits, rest) ← wholeDigits? cs
    let value : Int := valueOf 10 digits
    some (← word? (if negative then -value else value), rest)

def fraction? (cs : List Char) : Option (List Char × List Char) :=
  match cs with
  | '.' :: rest => digits? Char.isDigit rest
  | _ => none

def exponent? (cs : List Char) : Option (Int × List Char) :=
  let number (cs : List Char) : Option (Int × List Char) := do
    let (negative, cs) := sign cs
    let (digits, rest) ← digits? Char.isDigit cs
    let value : Int := valueOf 10 digits
    some (if negative then -value else value, rest)
  match cs with
  | 'e' :: rest => number rest
  | 'E' :: rest => number rest
  | _ => none

/-- A number with a fraction, an exponent or both. One too large to be finite is refused, unless it
is negative. -/
def decimal? (cs : List Char) : Option (Document × List Char) := do
  let (negative, cs) := sign cs
  let (whole, cs) ← wholeDigits? cs
  let (fraction, exponent, rest) ← match fraction? cs with
    | some (fraction, cs) =>
      match exponent? cs with
      | some (exponent, rest) => some (fraction, exponent, rest)
      | none => some (fraction, 0, cs)
    | none => (exponent? cs).map fun found => ([], found.1, found.2)
  let value := Number.Binary64.ofDecimal negative (valueOf 10 (whole ++ fraction))
    (exponent - fraction.length)
  if value = .infinite false then none else some (.real value, rest)

def special? (cs : List Char) : Option (Document × List Char) :=
  let (negative, cs) := sign cs
  match cs with
  | 'i' :: 'n' :: 'f' :: rest => some (.real (.infinite negative), rest)
  | 'n' :: 'a' :: 'n' :: rest => some (.real .nan, rest)
  | _ => none

def fixed? (width least most : Nat) (cs : List Char) : Option (Nat × List Char) :=
  let digits := cs.take width
  let value := valueOf 10 digits
  if digits.length = width ∧ digits.all Char.isDigit ∧ least ≤ value ∧ value ≤ most then
    some (value, cs.drop width)
  else none

def skip? (c : Char) (cs : List Char) : Option (List Char) :=
  match cs with
  | first :: rest => if first = c then some rest else none
  | [] => none

def date? (cs : List Char) : Option (List Char) := do
  let (year, cs) ← fixed? 4 0 9999 cs
  let cs ← skip? '-' cs
  let (month, cs) ← fixed? 2 1 12 cs
  let cs ← skip? '-' cs
  let (_, rest) ← fixed? 2 1 (Time.daysInMonth year month) cs
  some rest

/-- A time of day; a minute may have a sixty-first second. -/
def timeOfDay? (cs : List Char) : Option (List Char) := do
  let (_, cs) ← fixed? 2 0 23 cs
  let cs ← skip? ':' cs
  let (_, cs) ← fixed? 2 0 59 cs
  let cs ← skip? ':' cs
  let (_, cs) ← fixed? 2 0 60 cs
  match cs with
  | '.' :: c :: rest =>
    if c.isDigit then some (rest.dropWhile Char.isDigit) else some ('.' :: c :: rest)
  | cs => some cs

def zone? (cs : List Char) : Option (List Char) :=
  let distance (cs : List Char) : Option (List Char) := do
    let (_, cs) ← fixed? 2 0 23 cs
    let cs ← skip? ':' cs
    let (_, cs) ← fixed? 2 0 59 cs
    some cs
  match cs with
  | 'Z' :: rest => some rest
  | 'z' :: rest => some rest
  | '+' :: rest => distance rest
  | '-' :: rest => distance rest
  | _ => some cs

/-- A date, a time of day, or a date with a time and perhaps a zone. -/
def moment? (cs : List Char) : Option (Document × List Char) :=
  match date? cs with
  | some afterDate =>
    let time := match afterDate with
      | 'T' :: rest => timeOfDay? rest
      | 't' :: rest => timeOfDay? rest
      | ' ' :: rest => timeOfDay? rest
      | _ => none
    match time with
    | some afterTime => (zone? afterTime).map (.moment, ·)
    | none => some (.moment, afterDate)
  | none => (timeOfDay? cs).map (.moment, ·)

def truth? (cs : List Char) : Option (Document × List Char) :=
  match cs with
  | 't' :: 'r' :: 'u' :: 'e' :: rest => some (.boolean true, rest)
  | 'f' :: 'a' :: 'l' :: 's' :: 'e' :: rest => some (.boolean false, rest)
  | _ => none

def scalar? (cs : List Char) : Option (Document × List Char) :=
  match cs with
  | [] => none
  | c :: _ =>
    if c = '"' ∨ c = '\'' then (text? cs).map fun found => (.text found.1, found.2)
    else if c.isDigit || c == '+' || c == '-' then
      (moment? cs).or ((decimal? cs).or ((special? cs).or (integer? cs)))
    else (truth? cs).or (special? cs)

end EventCapture.Toml
