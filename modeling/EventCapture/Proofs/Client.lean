import EventCapture.Proofs.Operations

/-! Clients: programs over one world that make routers and sinks, attach and detach routes, emit
events, and open, read, drain and close sessions.

Building an event may run any further actions, nested to any depth. A client can only name what it
holds: a sink of its own by its place among the sinks that it made, and a route by its place among
the handles that attaching gave it. The sink and the route of a session are out of its reach.

Beside the world a course keeps what the claims about whole runs speak of: the handles that were
given out, and a log of what has happened. Nothing that an action does depends on the log.
-/

set_option autoImplicit false

namespace EventCapture

namespace Client

inductive Action where
  | advance (nanos : Nat)
  | newRouter (ownEvents : Bool)
  | newSink
  /-- Attach a route to the sink at a place among the client's own. -/
  | attach (router : RouterId) (patterns : PatternSet) (least : Level) (sink : Nat)
  /-- Detach the route of the handle at a place among those given out, attached or not. -/
  | detach (handle : Nat)
  | dispatch (router : RouterId) (event : Event)
  /-- Emit an event; what is nested runs while it is built. -/
  | dispatchWith (router : RouterId) (event : Event) (nested : List Action)
  /-- Emit a structured event to the current subscriber. -/
  | trace (event : Facade.TraceEvent)
  /-- Emit a log entry; what is nested runs while it is formatted. -/
  | log (router : RouterId) (entry : Facade.LogEntry) (nested : List Action)
  /-- Act with a router as the subscriber of structured events. -/
  | within (router : RouterId) (nested : List Action)
  | record (sink : Nat) (event : Event)
  | drainSink (sink : Nat)
  | freeze (sink : Nat)
  | openSession (id : SessionId) (router : RouterId) (patterns : List String) (least : Level)
  | openWithSettings (id : SessionId) (router : RouterId) (settings : Settings)
  | drain (session : SessionRef)
  | waitFor (session : SessionRef) (filter : Filter) (policy : WaitPolicy)
  | close (session : SessionRef)
  | drop (session : SessionRef)

/-- A route that attaching gave to the client, and whether it was not detached since. -/
structure Handle where
  router : RouterId
  route : Route
  attached : Bool
  deriving DecidableEq, Repr

/-- What has happened in a world, as far as it concerns what sessions capture. -/
inductive Happening where
  | opened (session : SessionRef)
  /-- A session was closed for the first time. -/
  | closed (session : SessionRef)
  /-- These records were taken out of a session. -/
  | drained (session : SessionRef) (records : List Record)
  /-- An event was emitted to what had been selected for it when so many things had happened. If
  nothing was selected this is put down at once, otherwise when the event was built. -/
  | emitted (selectedAt : Nat) (router : RouterId) (event : Event)
  deriving DecidableEq, Repr

/-- How far the run of a client has come. -/
structure Course where
  world : World
  /-- The sinks that the client made. -/
  sinks : List SinkId
  handles : List Handle
  /-- What has happened, in order. -/
  log : List Happening
  deriving Repr

namespace Course

/-- A world in which nothing has happened yet, and a client that holds nothing. -/
def start (origin : Instant) : Course := ⟨World.start origin, [], [], []⟩

def noted (c : Course) (happening : Happening) : Course :=
  { c with log := c.log ++ [happening] }

/-- Put down that a ready event was emitted to a router. -/
def notedReady (c : Course) (router : RouterId) (event : Event) : Course :=
  c.noted (.emitted c.log.length router event)

/-- Put down that a structured event was emitted to the current subscriber. -/
def reported (c : Course) (event : Facade.TraceEvent) : Course :=
  c.notedReady c.world.subscriber event.captured

def moved (c : Course) (w : World) : Course := { c with world := w }

/-- Go on after an opening, whether it succeeded or not. -/
def opened (c : Course) : World × Except World.OpeningFault SessionRef → Course
  | (w, .ok ref) =>
    let c := (c.moved w).noted (.opened ref)
    (w.session? ref).elim c fun session => c.reported session.openingReport
  | (w, .error (.refused failure)) =>
    (c.moved w).reported (Session.opening.failed failure 0 [])
  -- Without a time of day nothing is made, and nobody is told.
  | (w, .error (.untimed _)) => c.moved w

/-- Close a session. Only the first closing is put down. -/
def close (c : Course) (ref : SessionRef) : Course :=
  let (w, frozen) := c.world.close ref
  match c.world.session? ref with
  | none => c.moved w
  | some session =>
    if session.isClosed then c.moved w
    else ((c.moved w).noted (.closed ref)).reported
      (session.closingReport c.world.elapsed frozen.size)

def drain (c : Course) (ref : SessionRef) : Course :=
  let (w, records) := c.world.drainSession ref
  (c.world.session? ref).elim c fun _ => (c.moved w).noted (.drained ref records)

/-- Wait for a session while nobody else does anything. -/
def waitFor (c : Course) (ref : SessionRef) (filter : Filter) (policy : WaitPolicy) : Course :=
  let (w, waited) := c.world.waitFor ref filter policy ([] : List (Due Unit))
  match waited.result with
  | .ok _ => c.moved w
  | .error failure => (c.moved w).reported <| Session.waiting.failed failure
      (wholeMillis waited.elapsed) ((c.world.session? ref).toList.map Session.idField)

/-- Change the sink at a place among the client's own. -/
def onSink (c : Course) (place : Nat) (change : World → SinkId → World) : Course :=
  (c.sinks[place]?).elim c fun id => c.moved (change c.world id)

/-- Attach a route to the sink at a place among the client's own, and keep the handle. -/
def attach (c : Course) (router : RouterId) (patterns : PatternSet) (least : Level)
    (place : Nat) : Course :=
  match c.sinks[place]? with
  | none => c
  | some sink =>
    match c.world.attach router patterns least sink with
    | (w, some id) =>
      { c with world := w, handles := c.handles ++ [⟨router, ⟨id, patterns, least, sink⟩, true⟩] }
    | (w, none) => c.moved w

def detach (c : Course) (place : Nat) : Course :=
  match c.handles[place]? with
  | none => c
  | some handle =>
    { c with
      world := (c.world.detach handle.router handle.route.id).1
      handles := c.handles.set place { handle with attached := false } }

def openOn (c : Course) (router : RouterId)
    (opening : World → World × Except World.OpeningFault SessionRef) : Course :=
  (c.world.router? router).elim c fun _ => c.opened (opening c.world)

end Course

mutual

def Action.run : Action → Course → Course
  | .advance nanos, c => c.moved (c.world.advance nanos)
  | .newRouter ownEvents, c => c.moved (c.world.newRouter ownEvents).1
  | .newSink, c =>
    match c.world.newSink with
    | .ok (w, id) => { c with world := w, sinks := c.sinks ++ [id] }
    | .error _ => c
  | .attach router patterns least sink, c => c.attach router patterns least sink
  | .detach handle, c => c.detach handle
  | .dispatch router event, c =>
    (c.moved (c.world.dispatch router event).1).notedReady router event
  | .dispatchWith router event nested, c =>
    -- What is nested takes up the log where it stood when the targets were selected.
    let (w, _, built) := c.world.dispatchWith router event.logger event.level fun w =>
      let inner := runAll nested (c.moved w)
      (inner.world, event, inner)
    (built.elim (c.moved w) (·.moved w)).noted (.emitted c.log.length router event)
  | .trace event, c => (c.moved (c.world.trace event)).reported event
  | .log router entry nested, c =>
    let (w, formatted) := c.world.log router entry fun w =>
      let inner := runAll nested (c.moved w)
      (inner.world, inner)
    (formatted.elim (c.moved w) (·.moved w)).noted
      (.emitted c.log.length router entry.captured)
  | .within router nested, c =>
    let (w, inner) := c.world.withSubscriber router fun w =>
      let inner := runAll nested (c.moved w)
      (inner.world, inner)
    inner.moved w
  | .record sink event, c => c.onSink sink fun w id => (w.record id event).1
  | .drainSink sink, c => c.onSink sink fun w id => (w.drain id).1
  | .freeze sink, c => c.onSink sink fun w id => (w.freeze id).1
  | .openSession id router patterns least, c =>
    c.openOn router fun w => w.openSession id router patterns least
  | .openWithSettings id router settings, c =>
    c.openOn router fun w => w.openWithSettings id router settings
  | .drain session, c => c.drain session
  | .waitFor session filter policy, c => c.waitFor session filter policy
  | .close session, c => c.close session
  | .drop session, c =>
    { c.close session with world := c.world.release (.session session) }

def runAll : List Action → Course → Course
  | [], c => c
  | action :: rest, c => runAll rest (action.run c)

end

mutual

/-- The states inside an action, before it ends. Nothing is built that no route admits. -/
def Action.inside : Action → Course → List Course
  | .dispatchWith router event nested, c =>
    if (c.world.select router event.logger event.level).isEmpty then [] else trail nested c
  | .log router entry nested, c =>
    if (c.world.select router entry.logger entry.level).isEmpty then [] else trail nested c
  | .within router nested, c => trail nested (c.moved { c.world with subscriber := router })
  | _, _ => []

/-- Every state that a client passes through, from the first to the last. -/
def trail : List Action → Course → List Course
  | [], c => [c]
  | action :: rest, c => c :: (action.inside c ++ trail rest (action.run c))

end

end Client

end EventCapture
