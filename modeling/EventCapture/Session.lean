import EventCapture.Operation
import EventCapture.Router
import EventCapture.SessionId
import EventCapture.Settings

/-! Capture sessions: one sink and one route to it. A session is armed, then captures, then is
closed for good. -/

set_option autoImplicit false

namespace EventCapture

structure RouterId where
  index : Nat
  deriving DecidableEq, Repr

structure SessionRef where
  index : Nat
  deriving DecidableEq, Repr

inductive Phase where
  | armed
  | capturing (route : RouteId)
  | closed
  deriving DecidableEq, Repr

def Phase.name : Phase → String
  | .armed => "Armed"
  | .capturing _ => "Capturing"
  | .closed => "Closed"

structure Session where
  id : SessionId
  router : RouterId
  sink : SinkId
  patterns : PatternSet
  least : Level
  renderLimit : Nat
  /-- Nanoseconds on the monotonic clock at the opening. -/
  openedAt : Nat
  phase : Phase
  deriving DecidableEq, Repr

namespace Session

def component : String := "logcap_core::session"

def opening : Operation := ⟨component, Schema.sessionOpen⟩

def closing : Operation := ⟨component, Schema.sessionClose⟩

def waiting : Operation := ⟨component, Schema.sessionWait⟩

def idField (session : Session) : Facade.Visit := ⟨Schema.sessionId, .shown session.id.text⟩

def isClosed (session : Session) : Bool := session.phase == .closed

def debugText (session : Session) : String :=
  "CaptureSession \x7b id: " ++ session.id.debugText ++ ", patterns: " ++
    Text.quoted session.patterns.text ++ ", minimum_level: " ++ session.least.capitalized ++
    ", state: " ++ session.phase.name ++ " \x7d"

end Session

end EventCapture
