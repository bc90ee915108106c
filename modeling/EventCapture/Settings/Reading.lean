import EventCapture.Settings
import EventCapture.Toml.Reader

/-! Settings from documents. Every member may be missing and then has its usual value, and a member
of an unknown name is refused. Instead of a table there may be a sequence, whose items stand for the
members in their order. The first complaint in the order of the document wins. -/

set_option autoImplicit false

namespace EventCapture

namespace Settings

inductive Surplus where
  | refused
  | ignored
  deriving DecidableEq, Repr

/-- Read a table, or a sequence in place of it, member by member. A date or time counts as a table
of one member. -/
def readMembers {σ : Type} (surplus : Surplus) (names : List String) (expected : String)
    (member : σ → String → Document → Except ShapeFault σ) (usual : σ) (document : Document) :
    Except ShapeFault σ :=
  match document with
  | .table members => members.foldlM (fun state entry => member state entry.1 entry.2) usual
  | .sequence items =>
    -- a sequence shorter than the names leaves the rest as usual
    match (names.zip items).foldlM (fun state entry => member state entry.1 entry.2) usual with
    | .ok state =>
      -- told only once every member that there is has been read
      if surplus = .refused ∧ names.length < items.length then .error (.tooLong items.length)
      else .ok state
    | .error fault => .error fault
  | .moment => member usual Document.momentMember .moment
  | other => .error (.wrongType (.ofDocument other) expected)

def readText : Document → Except ShapeFault String
  | .text value => .ok value
  | other => .error (.wrongType (.ofDocument other) "a string")

def readTexts : Document → Except ShapeFault (List String)
  | .sequence items => items.mapM readText
  | other => .error (.wrongType (.ofDocument other) "a sequence")

def readNatural (expected : String) : Document → Except ShapeFault Nat
  | .integer value =>
    if 0 ≤ value then .ok value.toNat else .error (.wrongValue (.integer value) expected)
  | other => .error (.wrongType (.ofDocument other) expected)

def waitNames : List String := ["timeout_ms", "poll_interval_ms"]

def readWaitMember (wait : WaitSettings) (name : String) (value : Document) :
    Except ShapeFault WaitSettings :=
  match name with
  | "timeout_ms" => (readNatural "u64" value).map fun n => { wait with timeout := n }
  | "poll_interval_ms" => (readNatural "u64" value).map fun n => { wait with pollInterval := n }
  | _ => .error (.unknownField name waitNames)

def names : List String := ["patterns", "minimum_level", "wait", "render_limit"]

def readMember (surplus : Surplus) (settings : Settings) (name : String) (value : Document) :
    Except ShapeFault Settings :=
  match name with
  | "patterns" => (readTexts value).map fun texts => { settings with patterns := texts }
  | "minimum_level" => (readText value).map fun text => { settings with minimumLevel := text }
  | "wait" =>
    (readMembers surplus waitNames "struct WaitConfig" readWaitMember WaitSettings.usual value).map
      fun wait => { settings with wait := wait }
  | "render_limit" => (readNatural "usize" value).map fun n => { settings with renderLimit := n }
  | _ => .error (.unknownField name names)

def ofDocument (surplus : Surplus) (document : Document) : Except ShapeFault Settings :=
  readMembers surplus names "struct CaptureConfig" (readMember surplus) usual document

def ofText (text : String) : Except Fault Settings :=
  match Toml.parse? text with
  | none => .error .malformedDocument
  | some document =>
    match ofDocument .ignored document with
    | .ok settings => .ok settings
    | .error fault => .error (.misshapenDocument fault)

def ofFile (path : String) (content : Except ReadFault ByteArray) : Except Fault Settings :=
  match content with
  | .error why => .error (.unreadable path why)
  | .ok bytes =>
    match String.fromUTF8? bytes with
    | some text => ofText text
    | none => .error (.unreadable path .notText)

end Settings

end EventCapture
