import EventCapture.Proofs.Capture

/-! Emitters that race with the closing of a session.

An emission takes two turns: its targets are selected, then its event is recorded in them. A closing
takes two turns as well: the route is detached, then the sequence is frozen. Between two turns of
one party all others may have any number of theirs. An event whose targets were selected before the
route was gone may still arrive, but once an event of an emitter has missed the session, so will all
that the emitter takes up after it.
-/

set_option autoImplicit false

namespace EventCapture

namespace World

/-- The second step of a closing: the session is marked as closed and its sequence frozen. -/
def conclude (w : World) (ref : SessionRef) (session : Session) : World × Snapshot :=
  (w.setSession ref { session with phase := .closed }).freeze session.sink

theorem routers_conclude (w : World) (ref : SessionRef) (session : Session) :
    (w.conclude ref session).1.routers = w.routers := routers_freeze _ _

theorem kept_conclude (w : World) (ref : SessionRef) (session : Session) (id : SinkId) :
    (w.conclude ref session).1.kept id = w.kept id := kept_freeze _ _ id

theorem conclude_snapshot {w : World} {session : Session} {frozen : Bool}
    (there : w.frozen? session.sink = some frozen) (ref : SessionRef) :
    (w.conclude ref session).2 = ⟨w.kept session.sink, true⟩ := by
  unfold frozen? at there
  obtain ⟨sink, found, _⟩ := Option.map_eq_some_iff.mp there
  have same : (w.setSession ref { session with phase := .closed }).sink? session.sink = some sink :=
    found
  rw [conclude, freeze, same, kept_eq, found]
  rfl

theorem snapshot_eq {w : World} {id : SinkId} {frozen : Bool} (there : w.frozen? id = some frozen) :
    w.snapshot id = ⟨w.kept id, frozen⟩ := by
  unfold frozen? at there
  obtain ⟨sink, found, rfl⟩ := Option.map_eq_some_iff.mp there
  rw [kept, snapshot, found]
  rfl

theorem session?_conclude {w : World} {ref : SessionRef} {session there : Session}
    (found : w.session? ref = some there) :
    (w.conclude ref session).1.session? ref = some { session with phase := .closed } := by
  have changed := session?_setSession w ref ref { session with phase := .closed }
  rw [if_pos rfl, found] at changed
  unfold session? at changed ⊢
  rw [conclude, sessions_freeze]
  exact changed

end World

structure Emitter where
  /-- The event that is being emitted, with the sinks that were selected for it. -/
  inHand : Option (Event × List SinkId)
  /-- The events that are to come. -/
  left : List Event
  deriving DecidableEq, Repr

def Emitter.remaining (emitter : Emitter) : List Event :=
  (emitter.inHand.map Prod.fst).toList ++ emitter.left

inductive Closing where
  | pending
  | detached
  /-- The sequence is frozen, and this is what was kept. -/
  | done (frozen : Snapshot)
  deriving DecidableEq, Repr

def Closing.isDone : Closing → Bool
  | .done _ => true
  | _ => false

inductive Turn (ι : Type) where
  | emitter (name : ι)
  | closer
  /-- Nobody's, while so many nanoseconds pass. -/
  | pause (nanos : Nat)
  deriving DecidableEq, Repr

/-- Emitters on the router of a session, and somebody who closes the session. -/
structure Race (ι : Type) where
  world : World
  emitters : ι → Emitter
  closing : Closing
  /-- What the session has captured in the race, each record with the emitter it came from. -/
  arrived : List (ι × Record)

namespace Race

variable {ι : Type}

def start (w : World) (lists : ι → List Event) : Race ι :=
  ⟨w, fun name => ⟨none, lists name⟩, .pending, []⟩

def close (ref : SessionRef) (session : Session) (r : Race ι) : Race ι :=
  match r.closing with
  | .pending => { r with world := r.world.stopCapturing session, closing := .detached }
  | .detached =>
    let (w, frozen) := r.world.conclude ref session
    { r with world := w, closing := .done frozen }
  | .done _ => r

/-- The two turns of the closer, one right after the other, retire the session. -/
theorem close_close {r : Race ι} (ref : SessionRef) (session : Session)
    (pending : r.closing = .pending) :
    let closed := (r.close ref session).close ref session
    closed.world = r.world.retire ref session ∧
      closed.closing = .done (r.world.lastSnapshot ref session) := by
  simp only [close, pending]
  exact ⟨rfl, rfl⟩

variable [DecidableEq ι]

/-- The events of one emitter among what has arrived. -/
def captured (name : ι) (arrived : List (ι × Record)) : List Event :=
  (arrived.filter (·.1 = name)).map (·.2.event)

/-- The first turn of an emission: its targets are selected. -/
def select (session : Session) (name : ι) (event : Event) (left : List Event) (r : Race ι) :
    Race ι :=
  let targets := r.world.select session.router event.logger event.level
  { r with emitters := Function.update r.emitters name ⟨some (event, targets), left⟩ }

/-- The second turn of an emission: its event is recorded in what was selected. -/
def record (session : Session) (name : ι) (event : Event) (targets : List SinkId)
    (left : List Event) (r : Race ι) : Race ι :=
  let w := (r.world.recordAll targets event).1
  -- Whatever the sink of the session keeps more than before came by this turn.
  let added := (w.kept session.sink).drop (r.world.kept session.sink).length
  { r with
    world := w
    emitters := Function.update r.emitters name ⟨none, left⟩
    arrived := r.arrived ++ added.map (name, ·) }

/-- The turn of an emitter, which ends one emission before it begins the next. -/
def emit (session : Session) (name : ι) (r : Race ι) : Race ι :=
  match r.emitters name with
  | ⟨some (event, targets), left⟩ => r.record session name event targets left
  | ⟨none, event :: left⟩ => r.select session name event left
  | ⟨none, []⟩ => r

def turn (ref : SessionRef) (session : Session) (r : Race ι) : Turn ι → Race ι
  | .emitter name => r.emit session name
  | .closer => r.close ref session
  | .pause nanos => { r with world := r.world.advance nanos }

def run (ref : SessionRef) (session : Session) (r : Race ι) (schedule : List (Turn ι)) : Race ι :=
  schedule.foldl (turn ref session) r

/-- The two turns of an emission, one right after the other, are a dispatch. -/
theorem world_emit_emit {r : Race ι} {session : Session} {name : ι} {event : Event}
    {left : List Event} (ready : r.emitters name = ⟨none, event :: left⟩) :
    ((r.emit session name).emit session name).world =
      (r.world.dispatch session.router event).1 := by
  rw [World.dispatch_eq]
  simp [emit, select, record, ready]

/-! ### What holds at every turn -/

/-- What became of the events of one emitter: first come those that were captured, then those that
were lost, then those that remain. -/
structure Share (sink : SinkId) (closing : Closing) (events captured : List Event)
    (emitter : Emitter) (lost : List Event) : Prop where
  parts : events = captured ++ lost ++ emitter.remaining
  once : ∀ event targets, emitter.inHand = some (event, targets) → targets.count sink ≤ 1
  /-- Before the route is detached no event is lost, nor will be the one in hand. -/
  none_lost : closing = .pending → lost = [] ∧
    ∀ event targets, emitter.inHand = some (event, targets) → targets.count sink = 1
  /-- After an event was lost, the one in hand will be lost too. -/
  misses : lost ≠ [] → ∀ event targets, emitter.inHand = some (event, targets) →
    closing.isDone ∨ targets.count sink = 0

/-- What holds at every turn of a race that began in a world where the session captured by a
route. -/
structure Sound (w : World) (ref : SessionRef) (session : Session) (route : RouteId)
    (lists : ι → List Event) (r : Race ι) : Prop where
  listed : ∃ phase, r.world.session? ref = some { session with phase := phase }
  own : r.world.ownEvents? session.router = w.ownEvents? session.router
  leading : (r.world.table session.router).filter (·.sink == session.sink) =
    if r.closing = .pending then [⟨route, session.patterns, session.least, session.sink⟩] else []
  frozen : r.world.frozen? session.sink = some r.closing.isDone
  kept : r.world.kept session.sink = w.kept session.sink ++ r.arrived.map Prod.snd
  shown : ∀ frozen, r.closing = .done frozen → frozen = ⟨r.world.kept session.sink, true⟩
  shares : ∀ name, ∃ lost,
    Share session.sink r.closing (lists name) (captured name r.arrived) (r.emitters name) lost

def Wanted (w : World) (session : Session) (event : Event) : Prop :=
  session.asksFor event.logger event.level = true ∧
    w.ignores session.router event.logger = false

instance (w : World) (session : Session) (event : Event) : Decidable (Wanted w session event) :=
  inferInstanceAs (Decidable (_ ∧ _))

variable {w : World} {ref : SessionRef} {session : Session} {route : RouteId}
  {lists : ι → List Event} {r : Race ι}

/-- An event that the session wants is led to its sink as long as the route is attached. -/
theorem Sound.count_select (sound : Sound w ref session route lists r) {event : Event}
    (wanted : Wanted w session event) :
    (r.world.select session.router event.logger event.level).count session.sink =
      if r.closing = .pending then 1 else 0 := by
  have admits : Route.admits ⟨route, session.patterns, session.least, session.sink⟩ event.logger
      event.level = true := wanted.1
  have unignored : r.world.ignores session.router event.logger = false := by
    rw [← wanted.2]
    simp only [World.ignores, sound.own]
  rw [World.count_select_eq sound.leading, unignored, if_neg Bool.false_ne_true]
  split <;> simp [admits]

theorem captured_append (arrived : List (ι × Record)) (name other : ι) (added : List Record) :
    captured other (arrived ++ added.map (name, ·)) =
      captured other arrived ++ if other = name then added.map Record.event else [] := by
  have tagged : (added.map (name, ·)).filter (·.1 = other) =
      if other = name then added.map (name, ·) else [] := by
    split
    · next same => simp [same]
    · next apart => simp [Ne.symm apart]
  rw [captured, List.filter_append, tagged, List.map_append]
  split
  · simp [captured, Function.comp_def]
  · rfl

theorem share_of_idle {sink : SinkId} {closing : Closing} {events captured lost left : List Event}
    (parts : events = captured ++ lost ++ left) (none_lost : closing = .pending → lost = []) :
    Share sink closing events captured ⟨none, left⟩ lost where
  parts := parts
  once _ _ inHand := by cases inHand
  none_lost pending := ⟨none_lost pending, fun _ _ inHand => by cases inHand⟩
  misses _ _ _ inHand := by cases inHand

/-- What is in hand is recorded: it is captured, or it is lost with all that comes later. -/
theorem Share.record {sink : SinkId} {closing : Closing} {events captured lost left : List Event}
    {event : Event} {targets : List SinkId}
    (share : Share sink closing events captured ⟨some (event, targets), left⟩ lost) :
    ∃ lost', Share sink closing events
      (captured ++ if targets.count sink = 1 ∧ closing.isDone = false then [event] else [])
      ⟨none, left⟩ lost' := by
  have parts := share.parts
  simp only [Emitter.remaining, Option.map_some, Option.toList_some] at parts
  split
  · next arrives =>
    -- An event can only arrive while none of its emitter is lost.
    have none_lost : lost = [] := by
      refine Decidable.byContradiction fun some_lost => ?_
      obtain ended | missed := share.misses some_lost event targets rfl
      · rw [arrives.2] at ended
        contradiction
      · omega
    exact ⟨[], share_of_idle (by simp [parts, none_lost]) fun _ => rfl⟩
  · next fails =>
    refine ⟨lost ++ [event], share_of_idle (by simp [parts]) fun pending => ?_⟩
    have hit := (share.none_lost pending).2 event targets rfl
    exact absurd ⟨hit, by rw [pending]; rfl⟩ fails

theorem Share.select {sink : SinkId} {closing : Closing} {events captured lost left : List Event}
    {event : Event} {targets : List SinkId}
    (share : Share sink closing events captured ⟨none, event :: left⟩ lost)
    (count : targets.count sink = if closing = .pending then 1 else 0) :
    Share sink closing events captured ⟨some (event, targets), left⟩ lost := by
  constructor
  · exact share.parts
  · rintro _ _ ⟨⟩
    rw [count]
    split <;> omega
  · intro pending
    refine ⟨(share.none_lost pending).1, ?_⟩
    rintro _ _ ⟨⟩
    rw [count, if_pos pending]
  · rintro some_lost _ _ ⟨⟩
    have unpending : closing ≠ .pending := fun pending => some_lost (share.none_lost pending).1
    exact .inr (by rw [count, if_neg unpending])

theorem Sound.share_update (sound : Sound w ref session route lists r) {name : ι} {after : Emitter}
    (added : List Record) {lost : List Event}
    (own : Share session.sink r.closing (lists name)
      (captured name r.arrived ++ added.map Record.event) after lost) (other : ι) :
    ∃ lost, Share session.sink r.closing (lists other)
      (captured other (r.arrived ++ added.map (name, ·)))
      (Function.update r.emitters name after other) lost := by
  rw [captured_append]
  by_cases same : other = name
  · subst same
    rw [if_pos rfl, Function.update_self]
    exact ⟨lost, own⟩
  · rw [if_neg same, List.append_nil, Function.update_of_ne same]
    exact sound.shares other

theorem Sound.record (sound : Sound w ref session route lists r) {name : ι} {event : Event}
    {targets : List SinkId} {left : List Event}
    (inHand : r.emitters name = ⟨some (event, targets), left⟩) :
    Sound w ref session route lists (r.record session name event targets left) := by
  obtain ⟨lost, share⟩ := sound.shares name
  rw [inHand] at share
  obtain ⟨added, kept, same⟩ :=
    World.kept_recordAll sound.frozen (share.once event targets rfl) event
  obtain ⟨lost, after⟩ := share.record
  have steady := World.steady_recordAll r.world targets event
  simp only [Race.record, kept, List.drop_left]
  constructor
  · obtain ⟨phase, there⟩ := sound.listed
    exact ⟨phase, (steady.session? ref).trans there⟩
  · exact (World.ownEvents?_of_routers steady.routers _).trans sound.own
  · rw [World.table_of_routers steady.routers]
    exact sound.leading
  · exact (steady.seals _).trans sound.frozen
  · simp [kept, sound.kept, Function.comp_def]
  · intro frozen done
    -- A frozen sink takes nothing, so that what was shown is still what is kept.
    have nothing : added = [] := by
      rw [done, Closing.isDone, if_neg (by simp)] at same
      exact List.map_eq_nil_iff.mp same
    rw [kept, nothing, List.append_nil]
    exact sound.shown frozen done
  · rw [← same] at after
    exact sound.share_update added after

theorem Sound.select (sound : Sound w ref session route lists r) {name : ι} {event : Event}
    {left : List Event} (ready : r.emitters name = ⟨none, event :: left⟩)
    (wanted : ∀ event ∈ lists name, Wanted w session event) :
    Sound w ref session route lists (r.select session name event left) := by
  obtain ⟨lost, share⟩ := sound.shares name
  rw [ready] at share
  -- The next event is one of the list, so that the session wants it.
  have member : event ∈ lists name := by
    rw [share.parts]
    simp [Emitter.remaining]
  have after := share.select (sound.count_select (wanted event member))
  have updated := sound.share_update [] (by simpa using after)
  exact { sound with shares := by simpa [Race.select] using updated }

theorem Sound.emit (sound : Sound w ref session route lists r) (name : ι)
    (wanted : ∀ event ∈ lists name, Wanted w session event) :
    Sound w ref session route lists (r.emit session name) := by
  unfold Race.emit
  split
  · next event targets left inHand => exact sound.record inHand
  · next event left ready => exact sound.select ready wanted
  · exact sound

theorem Share.detach {sink : SinkId} {events captured lost : List Event} {emitter : Emitter}
    (share : Share sink .pending events captured emitter lost) :
    Share sink .detached events captured emitter lost where
  parts := share.parts
  once := share.once
  none_lost pending := by cases pending
  misses some_lost := absurd (share.none_lost rfl).1 some_lost

theorem Share.freeze {sink : SinkId} {events captured lost : List Event} {emitter : Emitter}
    (share : Share sink .detached events captured emitter lost) (frozen : Snapshot) :
    Share sink (.done frozen) events captured emitter lost where
  parts := share.parts
  once := share.once
  none_lost pending := by cases pending
  misses _ _ _ _ := .inl rfl

theorem Sound.detach (sound : Sound w ref session route lists r)
    (phase : session.phase = .capturing route) (pending : r.closing = .pending) :
    Sound w ref session route lists
      { r with world := r.world.stopCapturing session, closing := .detached } := by
  have stopped : r.world.stopCapturing session = (r.world.detach session.router route).1 := by
    rw [World.stopCapturing, phase]
  have sinks (id : SinkId) := r.world.sink?_detach session.router route id
  simp only [stopped]
  constructor
  · obtain ⟨before, there⟩ := sound.listed
    refine ⟨before, ?_⟩
    unfold World.session? at there ⊢
    rw [World.sessions_detach]
    exact there
  · exact (World.ownEvents?_detach _ _ _ _).trans sound.own
  · have leading := sound.leading
    rw [pending, if_pos rfl] at leading
    -- The only route that led to the sink is the one that is taken out.
    rw [World.table_detach, if_pos rfl, List.filter_filter]
    simp only [Bool.and_comm _ (Route.id _ != route)]
    rw [← List.filter_filter, leading]
    simp
  · rw [World.frozen?_of_sink? (sinks _), sound.frozen, pending]
    rfl
  · rw [World.kept_of_sink? (sinks _)]
    exact sound.kept
  · intro frozen done
    cases done
  · intro name
    obtain ⟨lost, share⟩ := sound.shares name
    rw [pending] at share
    exact ⟨lost, share.detach⟩

theorem Sound.conclude (sound : Sound w ref session route lists r)
    (detached : r.closing = .detached) :
    Sound w ref session route lists
      { r with
        world := (r.world.conclude ref session).1
        closing := .done (r.world.conclude ref session).2 } := by
  have leading := sound.leading
  have frozen := sound.frozen
  rw [detached] at leading frozen
  constructor
  · obtain ⟨before, there⟩ := sound.listed
    exact ⟨.closed, World.session?_conclude there⟩
  · exact (World.ownEvents?_of_routers (World.routers_conclude _ _ _) _).trans sound.own
  · rw [World.table_of_routers (World.routers_conclude _ _ _)]
    exact leading
  · rw [World.conclude, World.frozen?_freeze, if_pos rfl]
    exact congrArg (Option.map fun _ => true) frozen
  · rw [World.kept_conclude]
    exact sound.kept
  · intro shown same
    rw [World.kept_conclude, ← World.conclude_snapshot frozen ref]
    exact (Closing.done.inj same).symm
  · intro name
    obtain ⟨lost, share⟩ := sound.shares name
    rw [detached] at share
    exact ⟨lost, share.freeze _⟩

theorem Sound.close (sound : Sound w ref session route lists r)
    (phase : session.phase = .capturing route) :
    Sound w ref session route lists (r.close ref session) := by
  unfold Race.close
  cases closing : r.closing with
  | pending => exact sound.detach phase closing
  | detached => exact sound.conclude closing
  | done frozen => exact sound

theorem Sound.pause (sound : Sound w ref session route lists r) (nanos : Nat) :
    Sound w ref session route lists { r with world := r.world.advance nanos } :=
  ⟨sound.listed, sound.own, sound.leading, sound.frozen, sound.kept, sound.shown, sound.shares⟩

theorem Sound.turn (sound : Sound w ref session route lists r)
    (phase : session.phase = .capturing route)
    (wanted : ∀ name, ∀ event ∈ lists name, Wanted w session event) (turn : Turn ι) :
    Sound w ref session route lists (r.turn ref session turn) := by
  cases turn with
  | emitter name => exact sound.emit name (wanted name)
  | closer => exact sound.close phase
  | pause nanos => exact sound.pause nanos

theorem Sound.run (sound : Sound w ref session route lists r)
    (phase : session.phase = .capturing route)
    (wanted : ∀ name, ∀ event ∈ lists name, Wanted w session event) (schedule : List (Turn ι)) :
    Sound w ref session route lists (r.run ref session schedule) := by
  induction schedule generalizing r with
  | nil => exact sound
  | cons turn rest ih => exact ih (sound.turn phase wanted turn)

/-! ### Races -/

theorem sound_start {c : Client.Course} (lawful : Client.Lawful c)
    (found : c.world.session? ref = some session) (phase : session.phase = .capturing route) :
    Sound c.world ref session route lists (start c.world lists) := by
  have member := World.mem_of_session? found
  have unclosed : session.isClosed = false := by
    rw [Session.isClosed, phase]
    rfl
  constructor
  · exact ⟨session.phase, found⟩
  · rfl
  · have leading := lawful.leading member session.router
    simpa [Session.routeOn?, phase, start] using leading
  · have frozen := lawful.owned.frozen session member
    rw [unclosed] at frozen
    exact frozen
  · simp [start]
  · intro frozen done
    cases done
  · exact fun name => ⟨[], share_of_idle (by simp [start, captured]) fun _ => rfl⟩

theorem closing_emit (session : Session) (name : ι) (r : Race ι) :
    (r.emit session name).closing = r.closing := by
  unfold emit
  split <;> rfl

theorem closing_run_of_done {frozen : Snapshot} (done : r.closing = .done frozen)
    (schedule : List (Turn ι)) : (r.run ref session schedule).closing = .done frozen := by
  induction schedule generalizing r with
  | nil => exact done
  | cons turn rest ih =>
    apply ih
    cases turn with
    | emitter name => exact (closing_emit session name r).trans done
    | closer =>
      rw [Race.turn, close, done]
      exact done
    | pause nanos => exact done

theorem closing_run_of_not_mem {schedule : List (Turn ι)} (absent : .closer ∉ schedule) :
    (r.run ref session schedule).closing = r.closing := by
  induction schedule generalizing r with
  | nil => rfl
  | cons turn rest ih =>
    have later := ih (r := r.turn ref session turn) fun among => absent (.tail turn among)
    refine Eq.trans later ?_
    cases turn with
    | emitter name => exact closing_emit session name r
    | closer => exact absurd (List.mem_cons_self ..) absent
    | pause nanos => rfl

/-- However the turns of any number of emitters and of a closing are ordered, what the session
captures of each emitter is a beginning of its list. It is all that the emitter has finished if
nobody closes, and it does not change any more after the closing. -/
theorem captured_prefix_of_list {origin : Instant} {actions : List Client.Action} {c : Client.Course}
    (reached : c ∈ Client.trail actions (Client.Course.start origin))
    (found : c.world.session? ref = some session) (phase : session.phase = .capturing route)
    (wanted : ∀ name, ∀ event ∈ lists name, Wanted c.world session event)
    (schedule : List (Turn ι)) :
    let r := (start c.world lists).run ref session schedule
    (r.world.events ref).records = (c.world.events ref).records ++ r.arrived.map Prod.snd ∧
      (∀ name, captured name r.arrived <+: lists name) ∧
      (.closer ∉ schedule →
        ∀ name, captured name r.arrived ++ (r.emitters name).remaining = lists name) ∧
      ∀ frozen, r.closing = .done frozen →
        r.world.events ref = frozen ∧
          ∀ more, (r.run ref session more).world.events ref = frozen := by
  intro r
  have passage := (Client.trail_between (Client.Course.start origin) actions).reached c reached
  have begun : Sound c.world ref session route lists (start c.world lists) :=
    sound_start (passage.lawful (Client.lawful_start origin)) found phase
  have sound : Sound c.world ref session route lists r := begun.run phase wanted schedule
  have shown {later : Race ι} (sound : Sound c.world ref session route lists later)
      {frozen : Snapshot} (done : later.closing = .done frozen) :
      later.world.events ref = frozen := by
    obtain ⟨last, there⟩ := sound.listed
    have sealed := sound.frozen
    rw [done] at sealed
    rw [World.events, there, sound.shown frozen done]
    exact World.snapshot_eq sealed
  refine ⟨?_, fun name => ?_, fun absent name => ?_, fun frozen done => ⟨shown sound done, ?_⟩⟩
  · obtain ⟨last, there⟩ := sound.listed
    rw [World.events_eq there, World.events_eq found]
    exact sound.kept
  · obtain ⟨lost, share⟩ := sound.shares name
    rw [share.parts, List.append_assoc]
    exact List.prefix_append _ _
  · obtain ⟨lost, share⟩ := sound.shares name
    have pending : r.closing = .pending := closing_run_of_not_mem absent
    have parts := share.parts
    rw [(share.none_lost pending).1, List.append_nil] at parts
    exact parts.symm
  · exact fun more => shown (sound.run phase wanted more) (closing_run_of_done done more)

/-- A state with one session, on the router of the process, which keeps away from events of this
library. -/
def openedCourse (pattern : String) : Client.Course :=
  Client.runAll [.openSession ⟨7⟩ ⟨0⟩ [pattern] .info] (Client.Course.start ⟨0, 0⟩)

def twoLists : Bool → List Event
  | false => [Event.plain .info "app.left" "one", Event.plain .warn "app.left" "two"]
  | true => [Event.plain .info "app.right" "three"]

/-- One event arrives after the route is detached, another is taken up too late. -/
def closingSchedule : List (Turn Bool) :=
  [.emitter false, .emitter true, .emitter false, .closer, .emitter true, .emitter false, .closer,
    .emitter false]

theorem captured_prefix_of_twoLists :
    let session : Session := ⟨⟨7⟩, ⟨0⟩, ⟨0⟩, ⟨[.descendants "app"], by decide⟩, .info,
      Report.usualLimit, 0, .capturing ⟨1⟩⟩
    let r := (start (openedCourse "app.*").world twoLists).run ⟨0⟩ session closingSchedule
    (∀ name, captured name r.arrived <+: twoLists name) ∧ r.closing.isDone ∧
      captured false r.arrived = [Event.plain .info "app.left" "one"] ∧
      captured true r.arrived = [Event.plain .info "app.right" "three"] := by
  intro session r
  have reached : openedCourse "app.*" ∈ Client.trail _ (Client.Course.start ⟨0, 0⟩) :=
    Client.runAll_mem_trail _ _
  have found : (openedCourse "app.*").world.session? ⟨0⟩ = some session := by decide +kernel
  have wanted : ∀ name, ∀ event ∈ twoLists name,
      Wanted (openedCourse "app.*").world session event := by decide +kernel
  exact ⟨(captured_prefix_of_list reached found rfl wanted closingSchedule).2.1, by decide +kernel,
    by decide +kernel, by decide +kernel⟩

/-- An event of this library itself falls under the patterns of the session, but its router keeps
away from it, so that only the event after it is captured. -/
theorem captured_not_prefix_of_own :
    let session : Session := ⟨⟨7⟩, ⟨0⟩, ⟨0⟩, ⟨[.any], by decide⟩, .info, Report.usualLimit, 0,
      .capturing ⟨1⟩⟩
    let list := [Event.plain .info "logcap_core.probe" "own", Event.plain .info "app" "other"]
    let r := (start (openedCourse "*").world fun _ => list).run ⟨0⟩ session
      [.emitter (), .emitter (), .emitter (), .emitter (), .closer, .closer]
    (openedCourse "*").world.session? ⟨0⟩ = some session ∧
      (∀ event ∈ list, session.asksFor event.logger event.level) ∧ r.closing.isDone ∧
      captured () r.arrived = [Event.plain .info "app" "other"] ∧
      ¬ captured () r.arrived <+: list := by
  decide +kernel

end Race

end EventCapture
