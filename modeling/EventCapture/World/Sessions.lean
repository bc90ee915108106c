import EventCapture.World

/-! Sessions in the world: opening, reading, draining and closing them. Every opening, every closing
and every failure to open is reported as a structured event. -/

set_option autoImplicit false

namespace EventCapture.World

def session? (w : World) (ref : SessionRef) : Option Session := w.sessions[ref.index]?

def setSession (w : World) (ref : SessionRef) (session : Session) : World :=
  { w with sessions := w.sessions.set ref.index session }

inductive OpeningFault where
  | refused (failure : Failure)
  | untimed (fault : ClockFault)
  deriving DecidableEq, Repr

def arm (w : World) (id : SessionId) (router : RouterId) (patterns : PatternSet) (least : Level)
    (renderLimit : Nat) : Except ClockFault (World × SessionRef) := do
  -- the identifier is dated, and so a useless time of day is found before the sink is made
  let _ ← w.timeOfDay .session
  let (w, sink) ← w.newSink
  return ({ w with sessions := w.sessions ++
      [⟨id, router, sink, patterns, least, renderLimit, w.elapsed, .armed⟩] }, ⟨w.sessions.length⟩)

def startCapturing (w : World) (ref : SessionRef) : World :=
  match w.session? ref with
  | some session =>
    match w.attach session.router session.patterns session.least session.sink with
    | (w, some route) => w.setSession ref { session with phase := .capturing route }
    | (w, none) => w
  | none => w

/-- Open a session whose settings have been checked. If the time of day is of no use nothing is
made and nothing reported. -/
def openChecked (w : World) (id : SessionId) (router : RouterId) (patterns : PatternSet)
    (least : Level) (renderLimit : Nat) : World × Except OpeningFault SessionRef :=
  match w.arm id router patterns least renderLimit with
  | .error fault => (w, .error (.untimed fault))
  | .ok (w, ref) =>
    let w := w.startCapturing ref
    -- the report comes after the attachment, so that a session on own events captures its own opening
    (w.trace (Session.opening.started
      [⟨Schema.sessionId, .shown id.text⟩, ⟨Schema.patterns, .shown patterns.text⟩,
        ⟨Schema.minimumLevel, .shown least.name⟩]), .ok ref)

def refuseOpening (w : World) (fault : Fault) : World × Except OpeningFault SessionRef :=
  let failure := Failure.configuration fault
  (w.trace (Session.opening.failed failure 0 []), .error (.refused failure))

def openSession (w : World) (id : SessionId) (router : RouterId) (patterns : List String)
    (least : Level) : World × Except OpeningFault SessionRef :=
  match PatternSet.parse patterns with
  | .error fault => w.refuseOpening fault
  | .ok patterns => w.openChecked id router patterns least Report.usualLimit

def openWithSettings (w : World) (id : SessionId) (router : RouterId) (settings : Settings) :
    World × Except OpeningFault SessionRef :=
  match settings.validate with
  | .error fault => w.refuseOpening fault
  | .ok (patterns, least) => w.openChecked id router patterns least settings.renderLimit

def events (w : World) (ref : SessionRef) : Snapshot :=
  (w.session? ref).elim Snapshot.empty fun session => w.snapshot session.sink

def sessionView (w : World) (ref : SessionRef) : View :=
  ⟨w.events ref, (w.session? ref).elim Report.usualLimit Session.renderLimit⟩

def drainSession (w : World) (ref : SessionRef) : World × List Record :=
  match w.session? ref with
  | some session => w.drain session.sink
  | none => (w, [])

def stopCapturing (w : World) (session : Session) : World :=
  match session.phase with
  | .capturing route => (w.detach session.router route).1
  | _ => w

/-- Detach a session and freeze its sequence. Only the first closing does anything. -/
def close (w : World) (ref : SessionRef) : World × Snapshot :=
  match w.session? ref with
  | none => (w, Snapshot.empty)
  | some session =>
    if session.isClosed then (w, w.snapshot session.sink)
    else
      let w := (w.stopCapturing session).setSession ref { session with phase := .closed }
      -- frozen before the report, which the session itself no longer captures
      let (w, frozen) := w.freeze session.sink
      let took := wholeMillis (w.elapsed - session.openedAt)
      (w.trace (Session.closing.finished took
        [session.idField, ⟨Schema.captured, .integer frozen.size⟩]), frozen)

def capture {α : Type} (w : World) (id : SessionId) (patterns : List String) (least : Level)
    (action : World → World × α) : World × Except OpeningFault (α × View) :=
  match w.openSession id processRouter patterns least with
  | (w, .error fault) => (w, .error fault)
  | (w, .ok ref) =>
    let (w, value) := action w
    let (w, frozen) := w.close ref
    (w, .ok (value, ⟨frozen, (w.session? ref).elim Report.usualLimit Session.renderLimit⟩))

/-! ### Names -/

def lookup (w : World) (name : String) : Option Object := w.scope.lookup name

/-- Let go of an object. A session is closed by this. -/
def release (w : World) (object : Object) : World :=
  match object with
  | .session ref => (w.close ref).1
  | _ => w

def bind (w : World) (name : String) (object : Object) : World :=
  let previous := w.lookup name
  let w := { w with scope := (name, object) :: w.scope.filter (·.1 != name) }
  previous.elim w w.release

def unbind (w : World) (name : String) : World :=
  let previous := w.lookup name
  let w := { w with scope := w.scope.filter (·.1 != name) }
  previous.elim w w.release

end EventCapture.World
