import EventCapture.Event
import EventCapture.Pattern.Set

/-! Routers: ordered tables of routes from logger names to sinks.

A route admits an event when the event is severe enough and its logger name falls under the route's
patterns. Every admitting route leads the event to its sink, in the order of the table.
-/

set_option autoImplicit false

namespace EventCapture

structure SinkId where
  index : Nat
  deriving DecidableEq, Repr

/-- The number of a route; every route of a router has its own. -/
structure RouteId where
  number : Nat
  deriving DecidableEq, Repr

def RouteId.text (id : RouteId) : String := "route-" ++ toString id.number

structure Route where
  id : RouteId
  patterns : PatternSet
  least : Level
  sink : SinkId
  deriving DecidableEq, Repr

def Route.admits (route : Route) (logger : String) (level : Level) : Bool :=
  decide (route.least ≤ level) && route.patterns.matchesName logger

structure Router where
  routes : List Route
  nextNumber : Nat
  /-- Events of this library itself are routed too. -/
  ownEvents : Bool
  deriving DecidableEq, Repr

namespace Router

def empty (ownEvents : Bool) : Router := ⟨[], 1, ownEvents⟩

def ownRoot : String := "logcap_core"

def isOwnName (logger : String) : Bool :=
  let root := ownRoot.toList
  let name := logger.toList
  name.take root.length == root && (name.drop root.length).head?.all (· == '.')

/-- Whether the router keeps away from a logger name because it is the library's own. -/
def ignores (router : Router) (logger : String) : Bool :=
  !router.ownEvents && isOwnName logger

def attach (router : Router) (patterns : PatternSet) (least : Level) (sink : SinkId) :
    Router × RouteId :=
  let id : RouteId := ⟨router.nextNumber⟩
  ({ router with
      routes := router.routes ++ [⟨id, patterns, least, sink⟩]
      nextNumber := router.nextNumber + 1 }, id)

def detach (router : Router) (id : RouteId) : Router × Bool :=
  ({ router with routes := router.routes.filter (·.id != id) }, router.routes.any (·.id == id))

/-- The sinks that an event of this name and severity is led to, in the order of the table. -/
def targets (router : Router) (logger : String) (level : Level) : List SinkId :=
  -- own events are left out before any route is asked
  if router.ignores logger then []
  else (router.routes.filter (·.admits logger level)).map (·.sink)

def isInterested (router : Router) (logger : String) (level : Level) : Bool :=
  !router.ignores logger && router.routes.any (·.admits logger level)

def debugText (router : Router) : String :=
  "CaptureRouter \x7b routes: " ++ toString router.routes.length ++ ", include_own_events: " ++
    (if router.ownEvents then "true" else "false") ++ " \x7d"

theorem isInterested_eq (router : Router) (logger : String) (level : Level) :
    router.isInterested logger level = !(router.targets logger level).isEmpty := by
  unfold isInterested targets
  cases router.ignores logger with
  | true => rfl
  | false =>
    simp only [Bool.not_false, Bool.true_and, Bool.false_eq_true, if_false]
    induction router.routes with
    | nil => rfl
    | cons route rest ih =>
      cases admitted : route.admits logger level <;> simp [admitted, ih]

end Router

end EventCapture
