import EventCapture.Scenario.Step

/-! Running a scenario. A step changes the world and gives a reply; a step that fails gives its
failure as the reply, keeps nothing under a name, and the scenario goes on. -/

set_option autoImplicit false

namespace EventCapture.Scenario

open World

def routerNamed? (w : World) (name : String) : Option RouterId :=
  match w.lookup name with
  | some (.router id) => some id
  | _ => none

def sinkNamed? (w : World) (name : String) : Option SinkId :=
  match w.lookup name with
  | some (.sink id) => some id
  | _ => none

def sessionNamed? (w : World) (name : String) : Option SessionRef :=
  match w.lookup name with
  | some (.session ref) => some ref
  | _ => none

def routeNamed? (w : World) (name : String) : Option RouteId :=
  match w.lookup name with
  | some (.route id) => some id
  | _ => none

def viewNamed? (w : World) (name : String) : Option View :=
  match w.lookup name with
  | some (.sink id) => some (View.ofSnapshot (w.snapshot id))
  | some (.session ref) => some (w.sessionView ref)
  | some (.snapshot snapshot) => some (View.ofSnapshot snapshot)
  | some (.view view) => some view
  | _ => none

def keep (w : World) (name : Option String) (object : Object) : World :=
  name.elim w fun name => w.bind name object

def sessionStatus? (w : World) (ref : SessionRef) : Option Status :=
  (w.session? ref).map fun session =>
    .session session.phase session.patterns session.least (w.snapshot session.sink).size

def statusNamed? (w : World) (name : String) : Option Status :=
  match w.lookup name with
  | some (.sink id) => (w.sink? id).map fun sink => .sink sink.sealed sink.size
  | some (.session ref) => sessionStatus? w ref
  | some (.snapshot snapshot) => some (.snapshot snapshot)
  | some (.view view) => some (.view view)
  | _ => none

def checked {α : Type} (ok : α → Reply) : Except Failure α → Reply
  | .ok value => ok value
  | .error failure => .failed failure

def asserted {α : Type} (ok : α → Reply) : Except Failure α → Reply
  | .ok value => ok value
  | .error failure => .aborted failure

def Query.answer (view : View) : Query → Reply
  | .has filter => .truth (view.hasMatching filter)
  | .count filter => .number (view.countMatching filter)
  | .first filter => .record (view.firstMatching? filter)
  | .all filter => .entries (view.allMatching filter)
  | .expect filter => checked (fun record => .record (some record)) (view.expectMatching filter)
  | .checkCount filter expected => checked (fun _ => .done) (view.checkCount filter expected)
  | .checkNoErrors => checked (fun _ => .done) view.checkNoErrors
  | .assertEvent filter =>
    asserted (fun record => .record (some record)) (view.expectMatching filter)
  | .assertCount filter expected => asserted (fun _ => .done) (view.checkCount filter expected)
  | .assertNoErrors => asserted (fun _ => .done) view.checkNoErrors
  | .render limit => .text (Report.render view.records limit)
  | .jsonLines => .text view.snapshot.jsonLines
  | .messages => .texts view.snapshot.messages
  | .records => .records view.records
  | .get index field =>
    match view.snapshot.get? index with
    | some record => .inspected record (field.bind record.event.fields.get?)
    | none => .record none

def recordNumbered (id : SinkId) (level : Level) (logger stem : String) :
    Nat → Nat → World → World × Nat
  | 0, _, w => (w, 0)
  | count + 1, number, w =>
    let (w, accepted) := w.record id (Event.plain level logger (stem ++ toString number))
    let (w, rest) := recordNumbered id level logger stem count (number + 1) w
    (w, rest + accepted.toNat)

def unopened : OpeningFault → Reply
  | .refused failure => .failed failure
  | .untimed fault => .untimed fault

/-- The reply to the opening of a session, which is kept if it succeeds. It tells how the session
stands before it takes the place of what was kept under the name. -/
def opened (name : String) : World × Except OpeningFault SessionRef → World × Reply
  | (w, .error fault) => (w, unopened fault)
  | (w, .ok ref) =>
    (w.bind name (.session ref), (sessionStatus? w ref).elim (.noObject name) .status)

def debugNamed? (w : World) (name : String) : Option String :=
  match w.lookup name with
  | some (.session ref) => (w.session? ref).map Session.debugText
  | some (.router id) => (w.router? id).map Router.debugText
  | _ => none

def openingRouter? (w : World) (name : Option String) : Option RouterId :=
  name.elim (some processRouter) (routerNamed? w)

mutual

def Step.run : Step → World → World × Reply
  | .refused why, w => (w, .refused why)
  | .advance nanos, w => (w.advance nanos, .done)
  | .newRouter name ownEvents, w =>
    let (w, id) := w.newRouter ownEvents
    (w.bind name (.router id), .done)
  | .processRouter name, w =>
    (keep w name (.router processRouter), .router (w.routeCount processRouter))
  | .attach patterns router least sink name, w =>
    match routerNamed? w router, sinkNamed? w sink with
    | some id, some target =>
      match w.attach id patterns least target with
      | (w, some route) => (keep w name (.route route), .route route)
      | (w, none) => (w, .noObject router)
    | none, _ => (w, .noObject router)
    | _, none => (w, .noObject sink)
  | .detach router route, w =>
    match routerNamed? w router, routeNamed? w route with
    | some id, some route =>
      let (w, present) := w.detach id route
      (w, .truth present)
    | none, _ => (w, .noObject router)
    | _, none => (w, .noObject route)
  | .routeCount router, w =>
    match routerNamed? w router with
    | some id => (w, .number (w.routeCount id))
    | none => (w, .noObject router)
  | .isInterested router logger level, w =>
    match routerNamed? w router with
    | some id => (w, .truth (w.isInterested id logger level))
    | none => (w, .noObject router)
  | .dispatch router event, w =>
    match routerNamed? w router with
    | some id =>
      let (w, delivered) := w.dispatch id event
      (w, .number delivered)
    | none => (w, .noObject router)
  | .dispatchWith router logger level event nested, w =>
    match routerNamed? w router with
    | some id =>
      let (w, delivered, built) := w.dispatchWith id logger level fun w =>
        let (w, replies) := runAll nested w
        (w, event, replies)
      (w, .emission delivered built.isSome (built.getD []))
    | none => (w, .noObject router)
  | .logEnabled router target level, w =>
    match routerNamed? w router with
    | some id => (w, .truth (w.logEnabled id target level))
    | none => (w, .noObject router)
  | .log router entry nested, w =>
    match routerNamed? w router with
    | some id =>
      let (w, formatted) := w.log id entry (runAll nested)
      (w, .logged (formatted.getD []))
    | none => (w, .noObject router)
  | .logToProcess entry, w => ((w.log processRouter entry fun w => (w, ())).1, .done)
  | .withCapture router steps, w =>
    match routerNamed? w router with
    | some id =>
      let (w, replies) := w.withSubscriber id (runAll steps)
      (w, .several replies)
    | none => (w, .noObject router)
  | .trace event, w => (w.trace event, .done)
  | .operate nanos report, w =>
    let w := w.advance nanos
    (w.trace (report (wholeMillis nanos)), .done)
  | .newSink name, w =>
    match w.newSink with
    | .ok (w, id) =>
      (w.bind name (.sink id),
        (w.sink? id).elim (.noObject name) fun sink => .startedAt sink.clock.startedWall)
    | .error fault => (w, .untimed fault)
  | .record sink event, w =>
    match sinkNamed? w sink with
    | some id =>
      let (w, accepted) := w.record id event
      (w, .truth accepted)
    | none => (w, .noObject sink)
  | .recordMany sink level logger stem count, w =>
    match sinkNamed? w sink with
    | some id =>
      let (w, accepted) := recordNumbered id level logger stem count 0 w
      (w, .number accepted)
    | none => (w, .noObject sink)
  | .status name, w => (w, (statusNamed? w name).elim (.noObject name) .status)
  | .drain name, w =>
    match w.lookup name with
    | some (.sink id) =>
      let (w, records) := w.drain id
      (w, .entries records)
    | some (.session ref) =>
      let (w, records) := w.drainSession ref
      (w, .entries records)
    | _ => (w, .noObject name)
  | .freeze sink name, w =>
    match sinkNamed? w sink with
    | some id =>
      let (w, snapshot) := w.freeze id
      (keep w name (.snapshot snapshot), .snapshot snapshot)
    | none => (w, .noObject sink)
  | .snapshot source name, w =>
    match viewNamed? w source with
    | some view => (keep w name (.snapshot view.snapshot), .snapshot view.snapshot)
    | none => (w, .noObject source)
  | .emptySnapshot name, w => (keep w name (.snapshot Snapshot.empty), .snapshot Snapshot.empty)
  | .openSession id router patterns least name, w =>
    match openingRouter? w router with
    | some on => opened name (w.openSession id on patterns least)
    | none => (w, .noObject name)
  | .openWithSettings id router settings name, w =>
    match openingRouter? w router with
    | some on => opened name (w.openWithSettings id on settings)
    | none => (w, .noObject name)
  | .capture id patterns least steps name, w =>
    match w.capture id patterns least (runAll steps) with
    | (w, .error fault) => (w, unopened fault)
    | (w, .ok (replies, view)) => (keep w name (.view view), .captured replies view.snapshot)
  | .close session name, w =>
    match sessionNamed? w session with
    | some ref =>
      let (w, snapshot) := w.close ref
      (keep w name (.snapshot snapshot), .snapshot snapshot)
    | none => (w, .noObject session)
  | .drop name failing, w =>
    match w.lookup name with
    | some _ => (w.unbind name, if failing then .unwound else .done)
    | none => (w, .noObject name)
  | .debug name, w => (w, (debugNamed? w name).elim (.noObject name) .text)
  | .waitFor session filter policy others, w =>
    match sessionNamed? w session with
    | some ref =>
      let (w, waited) := w.waitFor ref filter policy (dueSteps others)
      (w, .waited waited.result waited.elapsed waited.during waited.left.length)
    | none => (w, .noObject session)
  | .assertions source limit name, w =>
    match viewNamed? w source with
    | some view =>
      let view := limit.elim view fun limit => ⟨view.snapshot, limit⟩
      (w.bind name (.view view), .viewed view.snapshot.size)
    | none => (w, .noObject source)
  | .query source query, w =>
    match viewNamed? w source with
    | some view => (w, query.answer view)
    | none => (w, .noObject source)
  | .compare source index other otherIndex, w =>
    match viewNamed? w source, viewNamed? w other with
    | some a, some b =>
      match a.snapshot.get? index, b.snapshot.get? otherIndex with
      | some x, some y => (w, .compared (x.cmp y) (x.same y))
      | _, _ => (w, .record none)
    | none, _ => (w, .noObject source)
    | _, none => (w, .noObject other)

def runAll : List Step → World → World × List Reply
  | [], w => (w, [])
  | step :: rest, w =>
    let (w, reply) := step.run w
    let (w, replies) := runAll rest w
    (w, reply :: replies)

def dueSteps : List (Nat × Step) → List (Due Reply)
  | [] => []
  | entry :: rest => dueStep entry :: dueSteps rest

def dueStep : Nat × Step → Due Reply
  | (delay, step) => ⟨delay, step.run⟩

end

def replies (origin : Instant) (steps : List Step) : List Reply :=
  (runAll steps (World.start origin)).2

end EventCapture.Scenario
