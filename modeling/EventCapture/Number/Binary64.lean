/-! Floating-point numbers of sixty-four bits as exact values: a mantissa below 2^53 times a power
of two. Reading a decimal rounds it to the nearest such number, a tie to the even mantissa. -/

set_option autoImplicit false

namespace EventCapture.Number

inductive Binary64 where
  | nan
  | infinite (negative : Bool)
  /-- The value `mantissa * 2^exponent`, with a sign that zero keeps too. -/
  | finite (negative : Bool) (mantissa : Nat) (exponent : Int)
  deriving DecidableEq, Repr

namespace Binary64

def leastExponent : Int := -1074

def greatestExponent : Int := 971

def hidden : Nat := Nat.pow 2 52

def ofBits (bits : Nat) : Binary64 :=
  let negative := bits / Nat.pow 2 63 % 2 == 1
  let biased := bits / hidden % 2048
  let fraction := bits % hidden
  if biased = 2047 then
    if fraction = 0 then .infinite negative else .nan
  else if biased = 0 then .finite negative fraction leastExponent
  else .finite negative (hidden + fraction) (leastExponent + (biased - 1 : Nat))

/-- A quotient rounded to the nearest whole number, a tie to the even one. -/
def roundQuotient (numerator denominator : Nat) : Nat :=
  let quotient := numerator / denominator
  let twice := 2 * (numerator % denominator)
  if denominator < twice || (twice == denominator && quotient % 2 == 1) then quotient + 1
  else quotient

def ofQuotient (negative : Bool) (numerator denominator : Nat) : Binary64 :=
  let guess : Int := (numerator.log2 : Int) - denominator.log2 - 53
  let exponent := max leastExponent guess
  let scaled (e : Int) : Nat × Nat :=
    if 0 ≤ e then (numerator, denominator * Nat.pow 2 e.toNat)
    else (numerator * Nat.pow 2 (-e).toNat, denominator)
  let fits (e : Int) : Bool := (scaled e).1 / (scaled e).2 < 2 * hidden
  let chosen := if fits exponent then exponent else exponent + 1
  let chosen := if fits chosen then chosen else chosen + 1
  let mantissa := roundQuotient (scaled chosen).1 (scaled chosen).2
  let final := if mantissa < 2 * hidden then (mantissa, chosen) else (hidden, chosen + 1)
  if greatestExponent < final.2 then .infinite negative else .finite negative final.1 final.2

def ofDecimal (negative : Bool) (digits : Nat) (exponent : Int) : Binary64 :=
  if digits = 0 then .finite negative 0 leastExponent
  else if 0 ≤ exponent then
    if 400 < exponent then .infinite negative
    else ofQuotient negative (digits * Nat.pow 10 exponent.toNat) 1
  else if exponent < -(400 + (Nat.toDigits 10 digits).length : Int) then
    .finite negative 0 leastExponent
  else ofQuotient negative digits (Nat.pow 10 (-exponent).toNat)

def magnitude : Binary64 → Nat × Nat
  | .finite _ mantissa exponent => (mantissa * Nat.pow 2 exponent.toNat, Nat.pow 2 (-exponent).toNat)
  | _ => (0, 1)

def times (a b : Binary64) : Binary64 :=
  let numerator := a.magnitude.1 * b.magnitude.1
  if numerator = 0 then .finite false 0 leastExponent
  else ofQuotient false numerator (a.magnitude.2 * b.magnitude.2)

def dividedBy (a b : Binary64) : Binary64 :=
  let numerator := a.magnitude.1 * b.magnitude.2
  if numerator = 0 then .finite false 0 leastExponent
  else ofQuotient false numerator (a.magnitude.2 * b.magnitude.1)

def signed (negative : Bool) : Binary64 → Binary64
  | .finite _ mantissa exponent => .finite negative mantissa exponent
  | .infinite _ => .infinite negative
  | .nan => .nan

end Binary64

end EventCapture.Number
