import EventCapture.ErrorChain
import EventCapture.Fields
import EventCapture.Level
import EventCapture.Thread

/-! Events as they are emitted, and records of them as a sink keeps them. -/

set_option autoImplicit false

namespace EventCapture

structure Event where
  level : Level
  logger : String
  message : String
  error : Option ErrorChain
  fields : Fields
  thread : ThreadTag
  deriving DecidableEq, Repr

namespace Event

def plain (level : Level) (logger message : String) : Event :=
  ⟨level, logger, message, none, Fields.empty, ThreadTag.main⟩

def withError (event : Event) (error : ErrorChain) : Event :=
  { event with error := some error }

def withField (event : Event) (name text : String) : Event :=
  { event with fields := event.fields.insert name text }

def isError (event : Event) : Bool :=
  event.level == .error || event.error.isSome

end Event

/-- An event that a sink has accepted: its place in the order of arrival, the time of day, and the
nanoseconds since the sink began. -/
structure Record where
  seq : Nat
  timestamp : Instant
  offset : Nat
  event : Event
  deriving DecidableEq, Repr

namespace Record

/-- By time, then by place of arrival. -/
def cmp (a b : Record) : Ordering :=
  (a.timestamp.cmp b.timestamp).then (compare a.seq b.seq)

/-- Two records count as the same when time and place agree. -/
def same (a b : Record) : Bool :=
  a.timestamp == b.timestamp && a.seq == b.seq

def text (record : Record) : String :=
  "#" ++ toString record.seq ++ " " ++ record.timestamp.reportText ++ " " ++
    Text.padRight 5 record.event.level.name ++ " " ++ record.event.logger ++ ": " ++
    record.event.message ++
    (match record.event.error with
      | some error => " [error: " ++ error.text ++ "]"
      | none => "")

/-- The stored form. An error that is missing and fields that are empty are left out. -/
def json (record : Record) : Json :=
  let event := record.event
  .object <|
    [("seq", .number record.seq), ("timestamp", .text record.timestamp.stampText),
      ("level", .text event.level.name), ("logger_name", .text event.logger),
      ("message", .text event.message)] ++
    (event.error.toList.map fun error => ("error", error.json)) ++
    [("thread", event.thread.json)] ++
    (if event.fields.isEmpty then []
      else [("fields", .object (event.fields.entries.map fun entry => (entry.1, .text entry.2)))])

end Record

end EventCapture
