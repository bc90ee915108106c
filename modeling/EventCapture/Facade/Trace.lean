import EventCapture.Event
import EventCapture.Name
import EventCapture.Schema

/-! Structured events: a target, a severity, and fields that are visited one after the other.

Three names are lifted out of the fields. The last text of the message field becomes the message.
An error becomes the attached error, and the last text of the kind field replaces the kind of it.
Every other field is kept as text.
-/

set_option autoImplicit false

namespace EventCapture.Facade

inductive FieldValue where
  | text (value : String)
  | integer (value : Int)
  | boolean (value : Bool)
  | real (value : Number.Binary64)
  | shown (value : String)
  | error (first : ErrorFace) (sources : List ErrorFace)
  deriving DecidableEq, Repr

def FieldValue.kept : FieldValue → String
  | .text value => value
  | .integer value => toString value
  | .boolean value => if value then "true" else "false"
  | .real value => value.text
  | .shown value => value
  | .error first _ => first.display

structure Visit where
  name : String
  value : FieldValue
  deriving DecidableEq, Repr

/-- Whether a field is kept as it is, with its text. -/
def Visit.isPlain (field : Visit) : Bool :=
  match field.value with
  | .error _ _ => false
  | _ => field.name != Schema.message && field.name != Schema.errorKind && field.name != Schema.error

structure TraceEvent where
  target : String
  level : Level
  visits : List Visit
  deriving DecidableEq, Repr

structure Gathering where
  message : Option String
  error : Option ErrorChain
  errorKind : Option String
  fields : Fields
  deriving DecidableEq, Repr

namespace Gathering

def empty : Gathering := ⟨none, none, none, Fields.empty⟩

def keep (gathering : Gathering) (name text : String) : Gathering :=
  { gathering with fields := gathering.fields.insert name text }

/-- A field that has a text. A text under the name of an error stands for one only if there is none
yet. -/
def visitText (gathering : Gathering) (name text : String) : Gathering :=
  if name = Schema.message then { gathering with message := some text }
  else if name = Schema.errorKind then { gathering with errorKind := some text }
  else if name = Schema.error then
    { gathering with error := some (gathering.error.getD (ErrorChain.ofMessage text)) }.keep
      name text
  else gathering.keep name text

/-- A field that is an error value. Under the name of an error it outranks what came before;
under any other name it counts only if there is no error yet. -/
def visitError (gathering : Gathering) (name : String) (first : ErrorFace)
    (sources : List ErrorFace) : Gathering :=
  let chosen := if name = Schema.error ∨ gathering.error = none then
      some (ErrorChain.ofFaces first sources)
    else gathering.error
  { gathering with error := chosen }.keep name first.display

def visit (gathering : Gathering) (field : Visit) : Gathering :=
  match field.value with
  -- an error value is never taken for the message, whatever its name
  | .error first sources => gathering.visitError field.name first sources
  | value => gathering.visitText field.name value.kept

def ofVisits (visits : List Visit) : Gathering := visits.foldl visit empty

def event (gathering : Gathering) (level : Level) (logger : String) : Event :=
  { level := level
    logger := logger
    message := gathering.message.getD ""
    error := match gathering.error, gathering.errorKind with
      -- a kind without an error is lost
      | some error, some kind => some (error.withKind kind)
      | error, _ => error
    fields := gathering.fields
    thread := ThreadTag.main }

theorem visit_of_plain {field : Visit} (plain : field.isPlain = true) (gathering : Gathering) :
    gathering.visit field = gathering.keep field.name field.value.kept := by
  obtain ⟨name, value⟩ := field
  cases value with
  | error => contradiction
  | text | integer | boolean | real | shown =>
    simp only [Visit.isPlain, Bool.and_eq_true, bne_iff_ne, ne_eq] at plain
    obtain ⟨⟨notMessage, notKind⟩, notError⟩ := plain
    exact (if_neg notMessage).trans ((if_neg notKind).trans (if_neg notError))

theorem ofVisits_of_plain {visits : List Visit} (plain : ∀ field ∈ visits, field.isPlain = true) :
    ofVisits visits =
      { empty with
        fields := Fields.ofList (visits.map fun field => (field.name, field.value.kept)) } := by
  rw [ofVisits, Fields.ofList, List.foldl_map]
  -- What has been gathered before only grows by the fields.
  suffices ∀ gathering : Gathering, visits.foldl visit gathering =
      { gathering with
        fields := visits.foldl (fun fields field => fields.insert field.name field.value.kept)
          gathering.fields } from this empty
  induction visits with
  | nil => exact fun _ => rfl
  | cons field rest ih =>
    intro gathering
    obtain ⟨first, others⟩ := List.forall_mem_cons.mp plain
    rw [List.foldl_cons, visit_of_plain first, ih others]
    rfl

end Gathering

namespace TraceEvent

def logger (event : TraceEvent) : String := Name.ofTarget event.target

def captured (event : TraceEvent) : Event :=
  (Gathering.ofVisits event.visits).event event.level event.logger

theorem captured_of_plain {event : TraceEvent}
    (plain : ∀ field ∈ event.visits, field.isPlain = true) :
    event.captured =
      { level := event.level
        logger := event.logger
        message := ""
        error := none
        fields := Fields.ofList (event.visits.map fun field => (field.name, field.value.kept))
        thread := ThreadTag.main } := by
  rw [captured, Gathering.ofVisits_of_plain plain]
  rfl

end TraceEvent

end EventCapture.Facade
