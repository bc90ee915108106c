/-! Identifiers of capture sessions: words of one hundred and twenty-eight bits, written as
thirty-two digits in base sixteen in five groups. -/

set_option autoImplicit false

namespace EventCapture

structure SessionId where
  bits : BitVec 128
  deriving DecidableEq, Repr

namespace SessionId

def digitValue? (c : Char) : Option Nat :=
  if '0' ≤ c ∧ c ≤ '9' then some (c.toNat - '0'.toNat)
  else if 'a' ≤ c ∧ c ≤ 'f' then some (c.toNat - 'a'.toNat + 10)
  else if 'A' ≤ c ∧ c ≤ 'F' then some (c.toNat - 'A'.toNat + 10)
  else none

def continueNumber? : Nat → List Char → Option Nat
  | value, [] => some value
  | value, c :: rest =>
    match digitValue? c with
    | some digit => continueNumber? (value * 16 + digit) rest
    | none => none

def ofDigits? (cs : List Char) : Option SessionId :=
  if cs.length = 32 then (continueNumber? 0 cs).map fun value => ⟨BitVec.ofNat 128 value⟩ else none

/-- Groups of eight, four, four, four and twelve digits with hyphens between them. -/
def ofGroups? (cs : List Char) : Option SessionId :=
  if cs.length = 36 ∧ cs[8]? = some '-' ∧ cs[13]? = some '-' ∧ cs[18]? = some '-' ∧
      cs[23]? = some '-' then
    ofDigits? (cs.take 8 ++ (cs.drop 9).take 4 ++ (cs.drop 14).take 4 ++ (cs.drop 19).take 4 ++
      cs.drop 24)
  else none

def resourceMark : List Char := "urn:uuid:".toList

/-- Read an identifier: plain digits, or groups, which may stand in braces or behind the mark of a
resource name in letters of any case. -/
def parse? (text : String) : Option SessionId :=
  let cs := text.toList
  -- the length alone decides which of the forms is read
  match cs.length with
  | 32 => ofDigits? cs
  | 36 => ofGroups? cs
  | 38 =>
    if cs.head? = some '\x7b' ∧ cs.getLast? = some '\x7d' then ofGroups? (cs.drop 1).dropLast
    else none
  | 45 => if (cs.take 9).map Char.toLower = resourceMark then ofGroups? (cs.drop 9) else none
  | _ => none

def digits (id : SessionId) : List Char :=
  (List.range 32).map fun place => Nat.digitChar (id.bits.toNat / Nat.pow 16 (31 - place) % 16)

/-- The groups with hyphens between them. -/
def text (id : SessionId) : String :=
  let cs := id.digits
  String.ofList (cs.take 8 ++ '-' :: (cs.drop 8).take 4 ++ '-' :: (cs.drop 12).take 4 ++
    '-' :: (cs.drop 16).take 4 ++ '-' :: cs.drop 20)

def version (id : SessionId) : Nat := id.bits.toNat / Nat.pow 16 19 % 16

/-- An identifier of version seven: the milliseconds since 1970 in front, then free bits. -/
def ofTime (millis free : Nat) : SessionId :=
  let bit := Nat.pow 2
  -- 48 bits of time, the version, 12 free bits, the variant `10`, 62 free bits
  ⟨BitVec.ofNat 128 (millis % bit 48 * bit 80 + 7 * bit 76 + free / bit 62 % bit 12 * bit 64 +
    bit 63 + free % bit 62)⟩

def debugText (id : SessionId) : String := "SessionId(" ++ id.text ++ ")"

end SessionId

end EventCapture
