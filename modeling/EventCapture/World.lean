import EventCapture.Facade.Log
import EventCapture.Session
import EventCapture.Sink
import EventCapture.Time.WallClock

/-! The world in which events are captured: a clock, routers, sinks and sessions, the router that
structured events currently go to, and the names under which a scenario keeps what it has made.

An emission has two steps. First its targets are selected from the table of routes; then, when the
event has been built, it is recorded in each of them. Between the two the world may change, since
building an event may run anything.
-/

set_option autoImplicit false

namespace EventCapture

inductive Object where
  | router (id : RouterId)
  | sink (id : SinkId)
  | session (ref : SessionRef)
  | route (id : RouteId)
  | snapshot (snapshot : Snapshot)
  | view (view : View)
  deriving DecidableEq, Repr

structure World where
  /-- Time of day when no time has passed. -/
  origin : Instant
  /-- Nanoseconds that have passed. -/
  elapsed : Nat
  sinks : List Sink
  routers : List Router
  sessions : List Session
  subscriber : RouterId
  scope : List (String × Object)
  deriving Repr

namespace World

def processRouter : RouterId := ⟨0⟩

def start (origin : Instant) : World :=
  { origin := origin
    elapsed := 0
    sinks := []
    routers := [Router.empty false]
    sessions := []
    subscriber := processRouter
    scope := [] }

/-! ### Time -/

def advance (w : World) (nanos : Nat) : World := { w with elapsed := w.elapsed + nanos }

/-- Let time pass up to a reading of the clock, unless it is later already. -/
def advanceTo (w : World) (reading : Nat) : World := { w with elapsed := max w.elapsed reading }

def timeOfDay (w : World) (reader : ClockReader) : Except ClockFault Instant :=
  Instant.usable reader (w.origin.shift? w.elapsed)

/-! ### Sinks -/

def sink? (w : World) (id : SinkId) : Option Sink := w.sinks[id.index]?

def setSink (w : World) (id : SinkId) (sink : Sink) : World :=
  { w with sinks := w.sinks.set id.index sink }

def newSink (w : World) : Except ClockFault (World × SinkId) := do
  let wall ← w.timeOfDay .sink
  return ({ w with sinks := w.sinks ++ [Sink.start w.elapsed wall] }, ⟨w.sinks.length⟩)

def record (w : World) (id : SinkId) (event : Event) : World × Bool :=
  match w.sink? id with
  | some sink =>
    let (sink, accepted) := sink.record w.elapsed event
    (w.setSink id sink, accepted)
  | none => (w, false)

/-- Record an event in several sinks in order, and count those that accepted it. -/
def recordAll (w : World) : List SinkId → Event → World × Nat
  | [], _ => (w, 0)
  | id :: rest, event =>
    let (w, accepted) := w.record id event
    let (w, count) := recordAll w rest event
    (w, count + accepted.toNat)

def snapshot (w : World) (id : SinkId) : Snapshot :=
  (w.sink? id).elim Snapshot.empty Sink.snapshot

def drain (w : World) (id : SinkId) : World × List Record :=
  match w.sink? id with
  | some sink =>
    let (sink, records) := sink.drain
    (w.setSink id sink, records)
  | none => (w, [])

def freeze (w : World) (id : SinkId) : World × Snapshot :=
  match w.sink? id with
  | some sink =>
    let (sink, snapshot) := sink.freeze
    (w.setSink id sink, snapshot)
  | none => (w, Snapshot.empty)

/-! ### Routers -/

def router? (w : World) (id : RouterId) : Option Router := w.routers[id.index]?

def setRouter (w : World) (id : RouterId) (router : Router) : World :=
  { w with routers := w.routers.set id.index router }

def newRouter (w : World) (ownEvents : Bool) : World × RouterId :=
  ({ w with routers := w.routers ++ [Router.empty ownEvents] }, ⟨w.routers.length⟩)

def routeCount (w : World) (id : RouterId) : Nat :=
  (w.router? id).elim 0 (·.routes.length)

def attach (w : World) (id : RouterId) (patterns : PatternSet) (least : Level) (sink : SinkId) :
    World × Option RouteId :=
  match w.router? id with
  | some router =>
    let (router, route) := router.attach patterns least sink
    (w.setRouter id router, some route)
  | none => (w, none)

def detach (w : World) (id : RouterId) (route : RouteId) : World × Bool :=
  match w.router? id with
  | some router =>
    let (router, present) := router.detach route
    (w.setRouter id router, present)
  | none => (w, false)

def isInterested (w : World) (id : RouterId) (logger : String) (level : Level) : Bool :=
  (w.router? id).any (·.isInterested logger level)

/-! ### Emissions -/

/-- The first step of an emission: the sinks it goes to. -/
def select (w : World) (id : RouterId) (logger : String) (level : Level) : List SinkId :=
  (w.router? id).elim [] (·.targets logger level)

/-- Deliver an event that is built only if some route admits it. Building may change the world and
give a result of its own. The count tells how many sinks accepted the event. -/
def dispatchWith {α : Type} (w : World) (id : RouterId) (logger : String) (level : Level)
    (build : World → World × Event × α) : World × Nat × Option α :=
  match w.select id logger level with
  | [] => (w, 0, none)
  | targets =>
    let (w, event, result) := build w
    let (w, delivered) := w.recordAll targets event
    (w, delivered, some result)

def dispatch (w : World) (id : RouterId) (event : Event) : World × Nat :=
  let (w, delivered, _) :=
    w.dispatchWith id event.logger event.level fun w => (w, event, ())
  (w, delivered)

def trace (w : World) (event : Facade.TraceEvent) : World :=
  (w.dispatchWith w.subscriber event.logger event.level fun w => (w, event.captured, ())).1

/-- Emit a log entry to a router. Its message is formatted only if some route admits it, and
formatting may change the world. -/
def log {α : Type} (w : World) (id : RouterId) (entry : Facade.LogEntry)
    (format : World → World × α) : World × Option α :=
  let (w, _, result) := w.dispatchWith id entry.logger entry.level fun w =>
    let (w, result) := format w
    (w, entry.captured, result)
  (w, result)

def logEnabled (w : World) (id : RouterId) (target : String) (level : Level) : Bool :=
  w.isInterested id (Name.ofTarget target) level

def withSubscriber {α : Type} (w : World) (id : RouterId) (body : World → World × α) :
    World × α :=
  let previous := w.subscriber
  let (w, result) := body { w with subscriber := id }
  ({ w with subscriber := previous }, result)

end World

end EventCapture
