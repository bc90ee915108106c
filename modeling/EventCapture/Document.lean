import EventCapture.Number.Shortest
import EventCapture.Text.Quoted

/-! Values of a settings document, whatever notation it was written in, and the complaints about
a value that has the wrong shape for its place. -/

set_option autoImplicit false

namespace EventCapture

/-- A value of a document. Members of a table keep the order of the document. -/
inductive Document where
  | null
  | boolean (value : Bool)
  | integer (value : Int)
  | real (value : Number.Binary64)
  | text (value : String)
  /-- A date, a time of day or both. -/
  | moment
  | sequence (items : List Document)
  | table (members : List (String × Document))
  deriving Repr

/-- The name of the only member of the table that a date or time counts as. -/
def Document.momentMember : String := "$__toml_private_datetime"

inductive Found where
  | null
  | boolean (value : Bool)
  | integer (value : Int)
  | real (value : Number.Binary64)
  | text (value : String)
  | sequence
  | map
  deriving DecidableEq, Repr

inductive RealForm where
  /-- In positional notation, however long it is. -/
  | pointed
  | compact
  deriving DecidableEq, Repr

def RealForm.text : RealForm → Number.Binary64 → String
  | .pointed, value => value.pointedText
  | .compact, value => value.compactText

namespace Found

/-- What a complaint says about a value. A date or time counts as a map of its parts. -/
def ofDocument : Document → Found
  | .null => .null
  | .boolean value => .boolean value
  | .integer value => .integer value
  | .real value => .real value
  | .text value => .text value
  | .moment => .map
  | .sequence _ => .sequence
  | .table _ => .map

def describe (form : RealForm) : Found → String
  | .null => "null"
  | .boolean value => "boolean `" ++ (if value then "true" else "false") ++ "`"
  | .integer value => "integer `" ++ toString value ++ "`"
  | .real value => "floating point `" ++ form.text value ++ "`"
  | .text value => "string " ++ Text.quoted value
  | .sequence => "sequence"
  | .map => "map"

end Found

inductive ShapeFault where
  | wrongType (found : Found) (expected : String)
  /-- The kind fits, but the value does not. -/
  | wrongValue (found : Found) (expected : String)
  | unknownField (name : String) (known : List String)
  | tooLong (length : Nat)
  deriving DecidableEq, Repr

namespace ShapeFault

def alternatives (known : List String) : String :=
  let shown := known.map fun name => "`" ++ name ++ "`"
  match shown with
  | [one] => one
  | [first, second] => first ++ " or " ++ second
  | several => "one of " ++ String.intercalate ", " several

def message (form : RealForm) : ShapeFault → String
  | .wrongType found expected =>
    "invalid type: " ++ found.describe form ++ ", expected " ++ expected
  | .wrongValue found expected =>
    "invalid value: " ++ found.describe form ++ ", expected " ++ expected
  | .unknownField name known =>
    "unknown field `" ++ name ++ "`, expected " ++ alternatives known
  | .tooLong length =>
    "invalid length " ++ toString length ++ ", expected fewer elements in array"

end ShapeFault

end EventCapture
