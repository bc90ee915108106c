import EventCapture.Character.CharSet
import EventCapture.Text.Pieces

/-! The notations in which the tables of this library are written.

A table of one property lists ranges of code points in base sixteen: `41-5A 5F 100-12E:2`, where
`:2` takes every second code point. A table of a property with several values lists runs: how many
code points in a row have which value, as in `32Cc1Zs3Po`.
-/

set_option autoImplicit false

namespace EventCapture

namespace CharSet

def codePointOf (digits : List Char) : Nat :=
  digits.foldl (fun value c =>
    value * 16 + (if c.isDigit then c.toNat - '0'.toNat else c.toNat - 'A'.toNat + 10)) 0

def everySecond (first : Nat) : Nat → List (Nat × Nat)
  | 0 => []
  | count + 1 => (first, first) :: everySecond (first + 2) count

def rangesOfWord (word : List Char) : List (Nat × Nat) :=
  match Text.pieces ':' word with
  | [] => []
  | ends :: stride =>
    match (Text.pieces '-' ends).map codePointOf with
    | [only] => [(only, only)]
    | first :: last :: _ =>
      if stride.isEmpty then [(first, last)] else everySecond first ((last - first) / 2 + 1)
    | [] => []

def table (lines : List String) : CharSet :=
  ofAscending (lines.flatMap fun line => (Text.pieces ' ' line.toList).flatMap rangesOfWord)

end CharSet

structure Run where
  first : Nat
  last : Nat
  value : String
  deriving Repr

namespace Run

/-- The runs that a text lists, from a code point on. The length and the value of the first run may
have been read in part, the value backwards. -/
def listed (first length : Nat) (value : List Char) : List Char → List Run
  | [] => [⟨first, first + length - 1, String.ofList value.reverse⟩]
  | c :: rest =>
    if !c.isDigit then listed first length (c :: value) rest
    else
      let digit := c.toNat - '0'.toNat
      if value.isEmpty then listed first (length * 10 + digit) [] rest
      else
        ⟨first, first + length - 1, String.ofList value.reverse⟩ ::
          listed (first + length) digit [] rest

def table (lines : List String) : List Run :=
  listed 0 0 [] (String.join lines).toList

def withValue (isWanted : String → Bool) (runs : List Run) : CharSet :=
  .ofAscending ((runs.filter fun run => isWanted run.value).map fun run => (run.first, run.last))

end Run

end EventCapture
