import EventCapture.Document

/-! Numerals of data interchange text. One without a fraction and an exponent that fits a word of
sixty-four bits, with or without a sign, is a whole number. Every other numeral is a floating-point
number, and not always the nearest: its digits are kept as long as they fit a word, and what they
make is scaled by a power of ten, with a rounding at every step. -/

set_option autoImplicit false

namespace EventCapture.Json

open Number

/-- What a word of sixty-four bits cannot hold. -/
def wordLimit : Nat := Nat.pow 2 64

/-- A numeral in its parts; the exponent is zero if none is written. -/
structure Numeral where
  negative : Bool
  whole : List Char
  fraction : List Char
  exponent : Int
  /-- There is neither a fraction nor an exponent. -/
  plain : Bool
  deriving DecidableEq, Repr

namespace Numeral

def digitOf (c : Char) : Nat := c.toNat - '0'.toNat

/-- Put digits behind a significand up to the first with which it would not fit a word, and count
those that did. -/
def extend : Nat → List Char → Nat × Nat
  | significand, [] => (significand, 0)
  | significand, c :: rest =>
    let grown := 10 * significand + digitOf c
    if grown < wordLimit then
      let (significand, count) := extend grown rest
      (significand, count + 1)
    else (significand, 0)

def greatestPower : Nat := 308

def powerOfTen (power : Nat) : Binary64 := .ofDecimal false 1 power

def shrink (size : Binary64) (power : Nat) : Binary64 :=
  if power ≤ greatestPower then size.dividedBy (powerOfTen power)
  else if size.magnitude.1 = 0 then size
  else shrink (size.dividedBy (powerOfTen greatestPower)) (power - greatestPower)
termination_by power
decreasing_by simp only [greatestPower] at *; omega

def scale? (size : Binary64) (power : Int) : Option Binary64 :=
  if size.magnitude.1 = 0 then some size
  else if power < 0 then some (shrink size power.natAbs)
  else if greatestPower < power.toNat then none
  else
    match size.times (powerOfTen power.toNat) with
    | .infinite _ => none
    | scaled => some scaled

/-- The number of a numeral as a value of a document. A negative zero is a floating-point number. -/
def value? (numeral : Numeral) : Option Document :=
  let (significand, count) := extend 0 numeral.whole
  -- the magnitude of a negative word may be one larger, and a negative zero is not an integer
  let fits := if numeral.negative then 0 < significand ∧ significand ≤ wordLimit / 2 else True
  if numeral.plain ∧ count = numeral.whole.length ∧ fits then
    some (.integer (if numeral.negative then -significand else significand))
  else
    -- digits that no longer fit are dropped; those of the whole part still raise the power of ten
    let (significand, places) := extend significand numeral.fraction
    let power := numeral.exponent + (numeral.whole.length - count : Nat) - places
    (scale? (.ofDecimal false significand 0) power).map fun size =>
      .real (size.signed numeral.negative)

def digits? (cs : List Char) : Option (List Char × List Char) :=
  match cs.span Char.isDigit with
  | ([], _) => none
  | found => some found

def whole? (cs : List Char) : Option (List Char × List Char) :=
  match cs with
  | '0' :: rest => some (['0'], rest)
  | cs => digits? cs

def exponent? (cs : List Char) : Option (Option Int) :=
  let magnitude? (cs : List Char) : Option Nat :=
    match digits? cs with
    | some (digits, []) => some (digits.foldl (fun value c => 10 * value + digitOf c) 0)
    | _ => none
  match cs with
  | [] => some none
  | letter :: rest =>
    if letter != 'e' && letter != 'E' then none
    else
      match rest with
      | '-' :: rest => (magnitude? rest).map fun size => some (-size)
      | '+' :: rest => (magnitude? rest).map fun size => some size
      | rest => (magnitude? rest).map fun size => some size

def parse? (cs : List Char) : Option Numeral := do
  let (negative, cs) := match cs with
    | '-' :: rest => (true, rest)
    | cs => (false, cs)
  let (whole, cs) ← whole? cs
  match cs with
  | '.' :: cs =>
    let (fraction, cs) ← digits? cs
    return ⟨negative, whole, fraction, (← exponent? cs).getD 0, false⟩
  | cs =>
    let exponent ← exponent? cs
    return ⟨negative, whole, [], exponent.getD 0, exponent.isNone⟩

end Numeral

end EventCapture.Json
