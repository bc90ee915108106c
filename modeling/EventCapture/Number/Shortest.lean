import EventCapture.Number.Binary64

/-! The shortest decimal of a floating-point number: the fewest digits that read back as the same
number, and of those the nearest to it. It is written in positional notation, or in a compact form
that gives very large and very small numbers a power of ten. The two differ in which of two equally
near decimals they take. -/

set_option autoImplicit false

namespace EventCapture.Number

/-- A decimal `digits * 10^exponent`. -/
structure Decimal where
  digits : Nat
  exponent : Int
  deriving DecidableEq, Repr

/-- A number between its neighbours, as whole numbers over one denominator: the number itself and
the two ends of the interval of decimals that round to it. -/
structure Interval where
  value : Nat
  lower : Nat
  upper : Nat
  denominator : Nat
  /-- The ends round to the number itself, because its mantissa is even. -/
  closed : Bool

def Interval.holds (interval : Interval) (numerator : Nat) : Bool :=
  if interval.closed then interval.lower ≤ numerator && numerator ≤ interval.upper
  else interval.lower < numerator && numerator < interval.upper

/-- The interval of a positive number, in units of the grid of decimals with the given exponent.
Below a power of two the neighbours lie closer together. -/
def Interval.onGrid (mantissa : Nat) (exponent grid : Int) : Interval :=
  let scale := Nat.pow 2 (exponent - 2).toNat * Nat.pow 10 (-grid).toNat
  -- in quarters of a unit: half a unit on either side, but half of that below a power of two
  let below := if mantissa = Binary64.hidden ∧ Binary64.leastExponent < exponent then 1 else 2
  { value := 4 * mantissa * scale
    lower := (4 * mantissa - below) * scale
    upper := (4 * mantissa + 2) * scale
    denominator := Nat.pow 2 (2 - exponent).toNat * Nat.pow 10 grid.toNat
    closed := mantissa % 2 == 0 }

inductive Tie where
  | upper
  | even
  deriving DecidableEq, Repr

/-- The grid point nearest to the number among those that read back. -/
def Interval.nearest? (interval : Interval) (tie : Tie) : Option Nat :=
  let below := interval.value / interval.denominator
  let belowHolds := interval.holds (below * interval.denominator)
  let aboveHolds := interval.holds ((below + 1) * interval.denominator)
  if belowHolds && aboveHolds then
    let middle := (2 * below + 1) * interval.denominator
    if 2 * interval.value < middle ∨ 2 * interval.value = middle ∧ tie = .even ∧ below % 2 = 0 then
      some below
    else some (below + 1)
  else if belowHolds then some below
  else if aboveHolds then some (below + 1)
  else none

/-- Search the grids from coarse to fine; the first with a point that reads back has the fewest
digits. -/
def searchGrids (tie : Tie) (mantissa : Nat) (exponent : Int) : Nat → Int → Decimal
  -- not reached from `shortest`
  | 0, grid => ⟨mantissa, grid⟩
  | steps + 1, grid =>
    match (Interval.onGrid mantissa exponent grid).nearest? tie with
    | some digits => ⟨digits, grid⟩
    | none => searchGrids tie mantissa exponent steps (grid - 1)

/-- The shortest decimal of a positive number. The first grid is coarser than the number itself,
and a grid of seventeen digits always has a point that reads back. -/
def shortest (tie : Tie) (mantissa : Nat) (exponent : Int) : Decimal :=
  -- 30103 / 100000 is a little more than the logarithm of two
  let coarsest := (((mantissa.log2 : Int) + 1 + exponent) * 30103).fdiv 100000 + 1
  searchGrids tie mantissa exponent 25 coarsest

def Decimal.text (decimal : Decimal) : String :=
  let digits := Nat.toDigits 10 decimal.digits
  if 0 ≤ decimal.exponent then
    String.ofList (digits ++ List.replicate decimal.exponent.toNat '0')
  else
    let places := (-decimal.exponent).toNat
    let whole := digits.take (digits.length - places)
    let fraction := digits.drop (digits.length - places)
    String.ofList
      ((if whole.isEmpty then ['0'] else whole) ++ ['.'] ++
        List.replicate (places - fraction.length) '0' ++ fraction)

def Binary64.text : Binary64 → String
  | .nan => "NaN"
  | .infinite negative => if negative then "-inf" else "inf"
  | .finite negative mantissa exponent =>
    (if negative then "-" else "") ++
      (if mantissa = 0 then "0" else (shortest .upper mantissa exponent).text)

def pointed (text : String) : String :=
  if text.toList.contains '.' then text else text ++ ".0"

def Binary64.pointedText (number : Binary64) : String :=
  match number with
  | .finite .. => pointed number.text
  | _ => number.text

def Decimal.scientificText (decimal : Decimal) : String :=
  let digits := Nat.toDigits 10 decimal.digits
  let power := decimal.exponent + (digits.length - 1 : Nat)
  String.ofList (digits.take 1 ++ (if digits.length = 1 then [] else '.' :: digits.drop 1)) ++
    (if power < 0 then "e-" else "e+") ++ toString power.natAbs

/-- Whether the compact form of a decimal is positional: its first digit stands at most five places
behind the point, and at most sixteen before it. -/
def Decimal.isModerate (decimal : Decimal) : Bool :=
  let power := decimal.exponent + ((Nat.toDigits 10 decimal.digits).length - 1 : Nat)
  power < 16 && -5 ≤ power

def Binary64.compactText (number : Binary64) : String :=
  match number with
  | .finite negative mantissa exponent =>
    let decimal := shortest .even mantissa exponent
    (if negative then "-" else "") ++
      (if mantissa = 0 then "0.0"
      else if decimal.isModerate then pointed decimal.text
      else decimal.scientificText)
  | _ => number.text

end EventCapture.Number
