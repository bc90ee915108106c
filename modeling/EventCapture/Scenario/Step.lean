import EventCapture.World.Wait

/-! Scenarios: programs that make routers, sinks and sessions, emit events, and ask what was
captured. A scenario keeps what it makes under names. Steps may contain steps: what runs while an
event is being built, under another subscriber, inside a scoped capture, or while a wait sleeps.
-/

set_option autoImplicit false

namespace EventCapture.Scenario

inductive Refusal where
  | failure (failure : Failure)
  | shape (fault : ShapeFault)
  | regex
  deriving DecidableEq, Repr

inductive Query where
  | has (filter : Filter)
  | count (filter : Filter)
  | first (filter : Filter)
  | all (filter : Filter)
  | expect (filter : Filter)
  | checkCount (filter : Filter) (expected : Nat)
  | checkNoErrors
  | assertEvent (filter : Filter)
  | assertCount (filter : Filter) (expected : Nat)
  | assertNoErrors
  | render (limit : Nat)
  | jsonLines
  | messages
  | records
  | get (index : Nat) (field : Option String)

inductive Step where
  | refused (why : Refusal)
  | advance (nanos : Nat)
  | newRouter (name : String) (ownEvents : Bool)
  | processRouter (name : Option String)
  | attach (patterns : PatternSet) (router : String) (least : Level) (sink : String)
      (name : Option String)
  | detach (router route : String)
  | routeCount (router : String)
  | isInterested (router : String) (logger : String) (level : Level)
  | dispatch (router : String) (event : Event)
  | dispatchWith (router : String) (logger : String) (level : Level) (event : Event)
      (nested : List Step)
  | logEnabled (router : String) (target : String) (level : Level)
  | log (router : String) (entry : Facade.LogEntry) (nested : List Step)
  | logToProcess (entry : Facade.LogEntry)
  | withCapture (router : String) (steps : List Step)
  | trace (event : Facade.TraceEvent)
  /-- Report on an operation that takes so many nanoseconds; the report may say so. -/
  | operate (nanos : Nat) (report : Nat → Facade.TraceEvent)
  | newSink (name : String)
  | record (sink : String) (event : Event)
  | recordMany (sink : String) (level : Level) (logger stem : String) (count : Nat)
  | status (name : String)
  | drain (name : String)
  | freeze (sink : String) (name : Option String)
  | snapshot (of : String) (name : Option String)
  | emptySnapshot (name : Option String)
  | openSession (id : SessionId) (router : Option String) (patterns : List String) (least : Level)
      (name : String)
  | openWithSettings (id : SessionId) (router : Option String) (settings : Settings) (name : String)
  | capture (id : SessionId) (patterns : List String) (least : Level) (steps : List Step)
      (name : Option String)
  | close (session : String) (name : Option String)
  /-- Let go of what is kept under a name, possibly because the scenario fails. -/
  | drop (name : String) (failing : Bool)
  | debug (name : String)
  | waitFor (session : String) (filter : Filter) (policy : WaitPolicy)
      (others : List (Nat × Step))
  | assertions (of : String) (limit : Option Nat) (name : String)
  | query (of : String) (query : Query)
  | compare (of : String) (index : Nat) (other : String) (otherIndex : Nat)

inductive Status where
  | sink (isSealed : Bool) (size : Nat)
  | snapshot (snapshot : Snapshot)
  | view (view : View)
  | session (phase : Phase) (patterns : PatternSet) (least : Level) (captured : Nat)
  deriving DecidableEq, Repr

inductive Reply where
  | done
  | truth (value : Bool)
  | number (value : Nat)
  | text (value : String)
  | texts (values : List String)
  | refused (why : Refusal)
  | failed (failure : Failure)
  | aborted (failure : Failure)
  | untimed (fault : ClockFault)
  | unwound
  | noObject (name : String)
  | startedAt (wall : Instant)
  | router (routes : Nat)
  | route (id : RouteId)
  | record (record : Option Record)
  | records (records : List Record)
  | entries (records : List Record)
  | snapshot (snapshot : Snapshot)
  | status (status : Status)
  | viewed (size : Nat)
  | inspected (record : Record) (field : Option String)
  | compared (order : Ordering) (same : Bool)
  | emission (delivered : Nat) (built : Bool) (nested : List Reply)
  | logged (nested : List Reply)
  | several (replies : List Reply)
  | captured (value : List Reply) (snapshot : Snapshot)
  | waited (result : Except Failure Record) (elapsed : Nat) (during : List Reply) (left : Nat)

end EventCapture.Scenario
