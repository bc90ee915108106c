import EventCapture.Level
import EventCapture.Regex.Pattern
import EventCapture.Text.Alphanumeric
import EventCapture.Text.Pieces
import EventCapture.Text.Quoted

/-! Directives that choose which structured events a console shows.

A list of directives is written with commas between them. A directive sets a threshold for every
target that begins with its stem, or for all targets, and may ask for a field that the event must
have. Of the directives that concern an event, the one that fixes the most about it decides: the one
with the longest stem, and of these one that asks for a field.
-/

set_option autoImplicit false

namespace EventCapture.Startup

/-- The least severity that is let through; nothing is when it is missing. -/
abbrev Threshold := Option Level

structure Directive where
  /-- What a target must begin with. -/
  stem : Option String
  /-- A field that an event must have. -/
  field : Option String
  /-- The directive holds inside certain spans only, and so never outside all of them. -/
  insideSpans : Bool
  threshold : Threshold
  deriving DecidableEq, Repr

namespace Threshold

def admits (threshold : Threshold) (level : Level) : Bool :=
  threshold.any fun least => decide (least ≤ level)

/-- The threshold of a number, from zero for nothing to five for everything. -/
def ofNumber? (number : Nat) : Option Threshold :=
  if number = 0 then some none else (Level.all.reverse[number - 1]?).map some

/-- The value of decimal digits, of which there must be one at least; a plus sign may go first. -/
def number? (cs : List Char) : Option Nat :=
  let digits := if cs.head? = some '+' then cs.drop 1 else cs
  if digits.isEmpty || digits.any (!·.isDigit) then none
  else some (digits.foldl (fun value c => value * 10 + (c.toNat - '0'.toNat)) 0)

/-- The threshold of a name: that of a severity, or the word for nothing. -/
def ofName? (name : List Char) : Option Threshold :=
  let lower := String.ofList (name.map Char.toLower)
  if lower = "off" then some none
  else (Level.all.find? fun level => level.name.toList.map Char.toLower == lower.toList).map some

def parse? (cs : List Char) : Option Threshold :=
  match number? cs with
  | some number => ofNumber? number
  | none => ofName? cs

/-- Read the threshold that stands behind an equals sign; without one everything is let through. -/
def assigned? (cs : List Char) : Option Threshold :=
  if cs.isEmpty then some (some .trace) else parse? cs

end Threshold

structure SplitCharacter where
  index : Nat
  text : String
  deriving DecidableEq, Repr

namespace SplitCharacter

def shownBytes : Nat := 256

/-- The longest beginning of a text that takes so many bytes at most. -/
def beginning : Nat → List Char → List Char
  | _, [] => []
  | bytes, c :: rest => if c.utf8Size ≤ bytes then c :: beginning (bytes - c.utf8Size) rest else []

def message (place : SplitCharacter) : String :=
  let before := beginning place.index place.text.toList
  let start := (String.ofList before).utf8ByteSize
  let split := (place.text.toList.drop before.length).headD ' '
  let shown := String.ofList (beginning shownBytes place.text.toList)
  "byte index " ++ toString place.index ++ " is not a char boundary; it is inside '" ++
    String.ofList (Text.quoteChar split) ++ "' (bytes " ++ toString start ++ ".." ++
    toString (start + split.utf8Size) ++ ") of \x60" ++ shown ++ "\x60" ++
    (if shown.utf8ByteSize < place.text.utf8ByteSize then "[...]" else "")

end SplitCharacter

inductive DirectiveFault where
  | malformed
  | split (place : SplitCharacter)
  deriving DecidableEq, Repr

namespace Directive

def general (threshold : Threshold) : Directive := ⟨none, none, false, threshold⟩

def isOpening (c : Char) : Bool :=
  c == '-' || c == ':' || c == '_' || Text.isAlphanumeric c

/-- The rest of a text from a byte on, unless the byte is inside a character. -/
def fromByte? : Nat → List Char → Option (List Char)
  | 0, cs => some cs
  | _ + 1, [] => none
  | bytes + 1, c :: rest =>
    if c.utf8Size ≤ bytes + 1 then fromByte? (bytes + 1 - c.utf8Size) rest else none

def part (text : List Char) (start stop : Nat) : Except DirectiveFault (List Char) :=
  match fromByte? start text, fromByte? stop text with
  -- the first of two bad bounds is the one that is told
  | none, _ => .error (.split ⟨start, String.ofList text⟩)
  | _, none => .error (.split ⟨stop, String.ofList text⟩)
  | some after, some rest => .ok (after.take (after.length - rest.length))

/-- The signs that begin a number which no pattern can begin with. -/
def isSignedNumber (cs : List Char) : Bool :=
  let isDigits (cs : List Char) : Bool := !cs.isEmpty && cs.all Char.isDigit
  let isExponent (cs : List Char) : Bool :=
    match cs with
    | [] => true
    | e :: '-' :: rest | e :: '+' :: rest => (e == 'e' || e == 'E') && isDigits rest
    | e :: rest => (e == 'e' || e == 'E') && isDigits rest
  match cs with
  | '+' :: rest =>
    let whole := rest.takeWhile Char.isDigit
    let isDecimal := match rest.drop whole.length with
      | '.' :: after =>
        let fraction := after.takeWhile Char.isDigit
        !(whole.isEmpty && fraction.isEmpty) && isExponent (after.drop fraction.length)
      | after => !whole.isEmpty && isExponent after
    isDecimal || ["inf", "infinity", "nan"].contains (String.ofList (rest.map Char.toLower))
  | _ => false

/-- Whether a text can stand for the value of a field: it is a number or a pattern. A pattern here
may be of any size but may not ask for word boundaries among all scripts. -/
def isFieldValue (cs : List Char) : Bool :=
  isSignedNumber cs ||
    (Regex.read? (String.ofList cs)).any fun expr => !expr.anyAnchor Regex.Anchor.seesScripts

structure Draft where
  stem : Option String
  /-- The field, and whether it must have a certain value. -/
  field : Option (String × Bool)
  /-- The directive names a span. -/
  namesSpan : Bool

inductive Stage where
  | opening
  | stem
  | span (start : Nat)
  | field (start : Nat)
  | afterField
  | afterSpan
  | threshold (start : Nat)

def fieldOf (text : List Char) : Except DirectiveFault (String × Bool) :=
  match Text.pieces '=' text with
  | name :: value :: _ =>
    if isFieldValue value then .ok (String.ofList name, true) else .error .malformed
  | _ => if text.isEmpty then .error .malformed else .ok (String.ofList text, false)

/-- Read one more character, which begins at a byte. The parts are cut out of the text as it was
written. -/
def advance (written : List Char) (draft : Draft) (stage : Stage) (byte : Nat) (c : Char) :
    Except DirectiveFault (Draft × Stage) :=
  match stage, c with
  | .opening, '[' => .ok (draft, .span (byte + 1))
  | .opening, c => if isOpening c then .ok (draft, .stem) else .error .malformed
  | .stem, '=' => do
    let stem ← part written 0 byte
    .ok ({ draft with stem := some (String.ofList stem) }, .threshold (byte + 1))
  | .stem, '[' => do
    let stem ← part written 0 byte
    .ok ({ draft with stem := some (String.ofList stem) }, .span (byte + 1))
  | .span start, ']' => do
    let _ ← part written start byte
    .ok ({ draft with namesSpan := true }, .afterSpan)
  | .span start, '\x7b' => do
    let name ← part written start byte
    .ok ({ draft with namesSpan := !name.isEmpty }, .field (byte + 1))
  | .field start, '\x7d' => do
    let field ← fieldOf (← part written start byte)
    .ok ({ draft with field := some field }, .afterField)
  | .afterField, ']' => .ok (draft, .afterSpan)
  | .afterSpan, '=' => .ok (draft, .threshold (byte + 1))
  | .afterField, _ | .afterSpan, _ => .error .malformed
  | stage, _ => .ok (draft, stage)

def advanceAll (written : List Char) : Draft → Stage → Nat → List Char →
    Except DirectiveFault (Draft × Stage)
  | draft, stage, _, [] => .ok (draft, stage)
  | draft, stage, byte, c :: rest => do
    let (draft, stage) ← advance written draft stage byte c
    advanceAll written draft stage (byte + c.utf8Size) rest

def Draft.close (draft : Draft) (threshold : Threshold) : Directive :=
  -- the value of a field is known inside the span alone
  ⟨draft.stem, draft.field.map (·.1), draft.namesSpan || draft.field.any (·.2), threshold⟩

/-- Read a directive: a threshold for all targets, or a stem, a span or a field with a threshold; if
that is left out everything is let through. Blanks around a directive are not read, but the parts
are counted from the beginning of the text with its blanks, so that blanks before it shift them. -/
def parse (written : List Char) : Except DirectiveFault Directive := do
  let (draft, stage) ← advanceAll written ⟨none, none, false⟩ .opening 0 (Text.trimmed written)
  match stage with
  | .stem =>
    -- a word alone is a threshold if it can be read as one, otherwise a target
    match Threshold.parse? written with
    | some threshold => .ok (general threshold)
    | none => .ok ⟨some (String.ofList written), none, false, some .trace⟩
  | .threshold start =>
    let rest ← part written start (String.ofList written).utf8ByteSize
    match Threshold.assigned? rest with
    | some threshold => .ok (draft.close threshold)
    | none => .error .malformed
  | .afterSpan => .ok (draft.close (some .trace))
  | _ => .error .malformed

def concerns (directive : Directive) (target : String) (fields : List String) : Bool :=
  !directive.insideSpans && directive.field.all fields.contains &&
    directive.stem.all fun stem => stem.toList.isPrefixOf target.toList

/-- How much of an event the directive fixes: its stem counts more than a field. -/
def reach (directive : Directive) : Nat :=
  2 * directive.stem.elim 0 String.length + if directive.field.isSome then 1 else 0

def parseAll (text : String) : Except DirectiveFault (List Directive) :=
  ((Text.pieces ',' text.toList).filter (!·.isEmpty)).mapM parse

/-- The directives in force when a variable has this text: those that it lists, or the one that lets
informative events through if it is not set or cannot be read. -/
def ofVariable (text : Option String) : Except SplitCharacter (List Directive) :=
  match text.map parseAll with
  | some (.ok directives) => .ok directives
  | some (.error (.split place)) => .error place
  | some (.error .malformed) | none => .ok [general (some .info)]

/-- Of the best directive so far and one more, the one that reaches further; of two with the same
reach the later. -/
def further (best : Option Directive) (directive : Directive) : Option Directive :=
  if best.all fun best => best.reach ≤ directive.reach then some directive else best

/-- The directive that decides about an event: of those that concern it the one that reaches
furthest, and of equal ones the last. -/
def deciding? (directives : List Directive) (target : String) (fields : List String) :
    Option Directive :=
  (directives.filter (·.concerns target fields)).foldl further none

theorem le_reach_of_foldl_further {directives : List Directive} {best : Option Directive}
    {chosen : Directive} (found : directives.foldl further best = some chosen) :
    (∀ earlier, best = some earlier → earlier.reach ≤ chosen.reach) ∧
      ∀ directive ∈ directives, directive.reach ≤ chosen.reach := by
  induction directives generalizing best with
  | nil => simp_all
  | cons first rest ih =>
    obtain ⟨ofBest, ofRest⟩ := ih found
    cases best with
    | none => simpa [further] using ⟨ofBest first rfl, ofRest⟩
    | some earlier =>
      by_cases below : earlier.reach ≤ first.reach
      · have := ofBest first (by simp [further, below])
        simpa using ⟨Nat.le_trans below this, this, ofRest⟩
      · have := ofBest earlier (by simp [further, below])
        simpa using ⟨this, Nat.le_trans (Nat.le_of_not_le below) this, ofRest⟩

theorem reach_le_of_deciding {directives : List Directive} {target : String} {fields : List String}
    {chosen : Directive} (decided : deciding? directives target fields = some chosen)
    {directive : Directive} (member : directive ∈ directives)
    (concerned : directive.concerns target fields = true) :
    directive.reach ≤ chosen.reach :=
  (le_reach_of_foldl_further decided).2 directive (List.mem_filter.2 ⟨member, concerned⟩)

def letThrough (directives : List Directive) (target : String) (level : Level)
    (fields : List String) : Bool :=
  (deciding? directives target fields).any (·.threshold.admits level)

end Directive

end EventCapture.Startup
