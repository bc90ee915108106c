import EventCapture.Startup.Directive
import EventCapture.World.Sessions

/-! The facility that a program sets up once, when it starts.

It takes hold of the two facades, of each only if nobody has taken hold of it before, and gives
structured events to the router of the process and to a console, log entries to the router. A
facade that is taken already is left alone, and a warning is emitted.
-/

set_option autoImplicit false

namespace EventCapture.Startup

open Facade

inductive Profile where
  /-- Lines for a reader. -/
  | development
  /-- One structured object a line. -/
  | production
  /-- No console. -/
  | test
  deriving DecidableEq, Repr

inductive Emission where
  | traced (event : TraceEvent)
  | logged (entry : LogEntry)
  deriving DecidableEq, Repr

namespace Emission

def captured : Emission → Event
  | .traced event => event.captured
  | .logged entry => entry.captured

def deliver (emission : Emission) (w : World) : World :=
  match emission with
  | .traced event => w.trace event
  | .logged entry => (w.log World.processRouter entry fun w => (w, ())).1

end Emission

structure Facility where
  profile : Profile
  /-- Somebody else receives structured events. -/
  subscriberTaken : Bool
  /-- Somebody else receives log entries. -/
  loggerTaken : Bool
  directives : List Directive
  deriving DecidableEq, Repr

namespace Facility

/-- The facility of a program whose environment has this text for the directives. Without a console
the text is not read. -/
def ofVariable (profile : Profile) (subscriberTaken loggerTaken : Bool) (text : Option String) :
    Except SplitCharacter Facility :=
  if profile = .test then .ok ⟨profile, subscriberTaken, loggerTaken, []⟩
  else
    (Directive.ofVariable text).map fun directives =>
      ⟨profile, subscriberTaken, loggerTaken, directives⟩

def component : String := "logcap_core::logging_facility::init"

def warning (message reason : String) : TraceEvent :=
  ⟨component, .warn, [⟨Schema.message, .shown message⟩, ⟨Schema.error, .shown reason⟩]⟩

def warnings (facility : Facility) : List TraceEvent :=
  (if facility.subscriberTaken then
    [warning "global tracing subscriber already set; tracing events will not be captured"
      "a global default trace dispatcher has already been set"]
  else []) ++
  (if facility.loggerTaken then
    [warning "global logger already set; log records will not be captured"
      "attempted to set a logger after the logging system was already initialized"]
  else [])

def captures (facility : Facility) : Emission → Bool
  | .traced _ => !facility.subscriberTaken
  | .logged _ => !facility.loggerTaken

def prints (facility : Facility) : Emission → Bool
  | .traced event =>
    facility.profile != .test && !facility.subscriberTaken &&
      Directive.letThrough facility.directives event.target event.level
        (event.visits.map (·.name))
  | .logged _ => false

def session (facility : Facility) (id : SessionId) (origin : Instant)
    (emissions : List Emission) : Snapshot :=
  let emit (w : World) : World × Unit :=
    ((emissions.filter facility.captures).foldl (fun w emission => emission.deliver w) w, ())
  match (World.start origin).capture id ["*"] .trace emit with
  | (_, .ok (_, view)) => view.snapshot
  | (_, .error _) => Snapshot.empty

/-- What others receive of the setting up and of the emissions after it, from a severity on. -/
def receivedByOthers (facility : Facility) (least : Level) (emissions : List Emission) :
    List Event :=
  ((facility.warnings.map Emission.traced ++ emissions).filter (!facility.captures ·)).map
    Emission.captured |>.filter fun event => decide (least ≤ event.level)

def printed (facility : Facility) (emissions : List Emission) : List Emission :=
  emissions.filter facility.prints

/-- The least severity that the log facade passes on: everything once the router receives its
entries, and before that nothing. -/
def logThreshold (facility : Facility) : Threshold :=
  if facility.loggerTaken then none else some .trace

end Facility

end EventCapture.Startup
