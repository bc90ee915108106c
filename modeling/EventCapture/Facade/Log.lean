import EventCapture.Event
import EventCapture.Name

/-! Plain log entries: a target, a severity, a message, and where in the program they come from. -/

set_option autoImplicit false

namespace EventCapture.Facade

structure LogEntry where
  target : String
  level : Level
  message : String
  modulePath : Option String
  file : Option String
  line : Option Nat
  deriving DecidableEq, Repr

namespace LogEntry

def logger (entry : LogEntry) : String := Name.ofTarget entry.target

def origin (entry : LogEntry) : List (String × String) :=
  (entry.modulePath.toList.map fun path => ("log.module_path", path)) ++
    (entry.file.toList.map fun file => ("log.file", file)) ++
    (entry.line.toList.map fun line => ("log.line", toString line))

def captured (entry : LogEntry) : Event :=
  entry.origin.foldl (fun event field => event.withField field.1 field.2)
    (Event.plain entry.level entry.logger entry.message)

end LogEntry

end EventCapture.Facade
