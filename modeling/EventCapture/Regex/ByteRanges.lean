import EventCapture.Character.CharSet

/-! Sets of characters as an automaton over the bytes of their encoding sees them.

A range of code points whose encodings differ is cut into pieces, so that each piece takes every
combination of one range of bytes for each place. -/

set_option autoImplicit false

namespace EventCapture.Regex

abbrev ByteRanges := List (Nat × Nat)

def encoded (n : Nat) : List Nat :=
  if n ≤ 0x7F then [n]
  else if n ≤ 0x7FF then [0xC0 + n / 64, 0x80 + n % 64]
  else if n ≤ 0xFFFF then [0xE0 + n / 4096, 0x80 + n / 64 % 64, 0x80 + n % 64]
  else [0xF0 + n / 262144, 0x80 + n / 4096 % 64, 0x80 + n / 64 % 64, 0x80 + n % 64]

/-- Where a range has to be cut, if so: the last code point of its first piece. A cut stands where
the length of the encoding changes, or else where a block that is not covered as a whole begins or
ends. -/
def cut? (first last : Nat) : Option Nat :=
  ([0x7F, 0x7FF, 0xFFFF].find? fun longest => first ≤ longest && longest < last) <|>
    if last ≤ 0x7F then none
    else [64, 4096, 262144].findSome? fun block =>
      if first / block = last / block then none
      else if first % block ≠ 0 then some (first / block * block + block - 1)
      else if last % block ≠ block - 1 then some (last / block * block - 1)
      else none

def piecesOf (first last : Nat) : List ByteRanges :=
  match cut? first last with
  | some middle =>
    if first ≤ middle ∧ middle < last then
      piecesOf first middle ++ piecesOf (middle + 1) last
    else []
  | none => [(encoded first).zip (encoded last)]
  termination_by last - first

/-- The pieces of a set, in ascending order. Halves of pairs are no characters. -/
def piecesOfSet (set : CharSet) : List ByteRanges :=
  (set.diff (.range 0xD800 0xDFFF)).ranges.flatMap fun range => piecesOf range.1 range.2

def groups : List ByteRanges → List ((Nat × Nat) × List ByteRanges)
  | [] => []
  | [] :: rest => groups rest
  | (first :: tail) :: rest =>
    match groups rest with
    | (other, tails) :: later =>
      if first = other then (first, tail :: tails) :: later
      else (first, [tail]) :: (other, tails) :: later
    | [] => [(first, [tail])]

end EventCapture.Regex
