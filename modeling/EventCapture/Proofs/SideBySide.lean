import EventCapture.Proofs.Likeness

/-! Programs that tell a render limit only by what they render.

A program runs side by side in two worlds that differ in the render limit of one session. After
every step they still differ in nothing else, whatever is nested in it and whatever others do while
it waits, and the replies are the same but for limits of views and for the reports in failures: the
one shows as much of the same records as the first limit says, and the other as much as the second.
-/

set_option autoImplicit false

namespace EventCapture.Scenario

open World

section

variable {ref : SessionRef} {first second : Nat}

/-! ### Queries -/

namespace ViewAlike

variable {a b : View} (alike : ViewAlike first second a b)

include alike

theorem expectMatching (filter : Filter) :
    ResultAlike first second (a.expectMatching filter) (b.expectMatching filter) := by
  have records : b.records = a.records := congrArg Snapshot.records alike.snapshot
  have failed := alike.report (.assertion ("an event matching " ++ filter.text)) (.assertion _)
  unfold View.expectMatching View.firstMatching?
  rw [records]
  cases a.records.find? filter.passes with
  | none => exact .error failed
  | some record => exact .ok record

theorem checkCount (filter : Filter) (expected : Nat) :
    ResultAlike first second (a.checkCount filter expected) (b.checkCount filter expected) := by
  have found : b.countMatching filter = a.countMatching filter := by
    unfold View.countMatching View.allMatching View.records
    rw [alike.snapshot]
  unfold View.checkCount
  rw [found]
  dsimp only
  split
  · exact .ok ()
  · exact .error (alike.report (.assertion _) (.assertion _))

theorem checkNoErrors : ResultAlike first second a.checkNoErrors b.checkNoErrors := by
  cases alike with
  | same =>
    cases a.checkNoErrors with
    | ok value => exact .ok value
    | error failure => exact .error (.same failure)
  | limits snapshot =>
    unfold View.checkNoErrors
    have offending : (View.mk snapshot second).offending = (View.mk snapshot first).offending := rfl
    rw [offending]
    dsimp only
    split
    · exact .ok ()
    · exact .error (.assertion _ _)

end ViewAlike

theorem checked_alike {α : Type} (ok : α → Reply) {x y : Except Failure α}
    (alike : ResultAlike first second x y) :
    ReplyAlike first second (checked ok x) (checked ok y) := by
  cases alike with
  | ok value => exact .same _
  | error failures => exact .failed failures

theorem asserted_alike {α : Type} (ok : α → Reply) {x y : Except Failure α}
    (alike : ResultAlike first second x y) :
    ReplyAlike first second (asserted ok x) (asserted ok y) := by
  cases alike with
  | ok value => exact .same _
  | error failures => exact .aborted failures

/-- Every other query tells of the records alone. -/
theorem Query.answer_alike (query : Query) {a b : View} (alike : ViewAlike first second a b) :
    ReplyAlike first second (query.answer a) (query.answer b) := by
  cases query with
  | expect filter => exact checked_alike _ (alike.expectMatching filter)
  | checkCount filter expected => exact checked_alike _ (alike.checkCount filter expected)
  | checkNoErrors => exact checked_alike _ alike.checkNoErrors
  | assertEvent filter => exact asserted_alike _ (alike.expectMatching filter)
  | assertCount filter expected => exact asserted_alike _ (alike.checkCount filter expected)
  | assertNoErrors => exact asserted_alike _ alike.checkNoErrors
  | has | count | first | all | render | jsonLines | messages | records | get =>
    cases alike <;> exact .same _

/-! ### Steps -/

/-- Nothing is nested in the step. -/
def Step.isPlain : Step → Bool
  | .dispatchWith .. | .log .. | .withCapture .. | .capture .. | .waitFor .. => false
  | _ => true

theorem blind_recordNumbered (id : SinkId) (level : Level) (logger stem : String) (count : Nat)
    (number : Nat) : Blind (recordNumbered id level logger stem count number) := by
  induction count generalizing number with
  | zero => exact .still 0
  | succ count ih =>
    exact (blind_record id _).andThen fun accepted =>
      (ih (number + 1)).map (· + accepted.toNat)

namespace Apart

variable {w v : World} (apart : Apart ref first second w v)

include apart

theorem step {α : Type} {op : World → World × α} (blind : Blind op) :
    ∃ x y result, op w = (x, result) ∧ op v = (y, result) ∧ Apart ref first second x y := by
  obtain ⟨later, same⟩ := apart.blind blind
  exact ⟨_, _, _, rfl, by rw [← same], later⟩

theorem sinks (id : SinkId) : v.sink? id = w.sink? id := apart.read (·.sink? id) fun _ _ _ _ => rfl

theorem sessionStatus? (other : SessionRef) :
    Scenario.sessionStatus? v other = Scenario.sessionStatus? w other := by
  unfold Scenario.sessionStatus?
  simp only [apart.snapshot]
  exact apart.readSession other
    (·.map fun session =>
      Status.session session.phase session.patterns session.least (w.snapshot session.sink).size)
    fun _ _ => rfl

theorem openingRouter? (name : Option String) :
    Scenario.openingRouter? v name = Scenario.openingRouter? w name := by
  cases name with
  | none => rfl
  | some name => exact apart.routerNamed? name

theorem debugNamed? (name : String) :
    Scenario.debugNamed? v name = Scenario.debugNamed? w name := by
  have routers (id : RouterId) : v.router? id = w.router? id :=
    apart.read (·.router? id) fun _ _ _ _ => rfl
  unfold Scenario.debugNamed?
  obtain same | ⟨a, b, here, there, _⟩ := apart.lookup name
  · rw [same]
    split
    · next other _ => exact apart.readSession other (·.map Session.debugText) fun _ _ => rfl
    · rw [routers]
    · rfl
  · rw [here, there]

/-- An opening is replied to in the same way, and the session is kept under the same name. -/
theorem opened (name : String) (result : Except OpeningFault SessionRef) :
    Beside ref first second (ReplyAlike first second) (Scenario.opened name (w, result))
      (Scenario.opened name (v, result)) := by
  cases result with
  | error fault => exact apart.reply _
  | ok other =>
    simp only [Scenario.opened, apart.sessionStatus?]
    exact ⟨apart.bind name (.same _), .same _⟩

end Apart

namespace Step

theorem keeps_attach (patterns : PatternSet) (router : String) (least : Level) (sink : String)
    (name : Option String) :
    Keeps ref first second (ReplyAlike first second)
      (Step.attach patterns router least sink name).run := by
  intro w v apart
  simp only [Step.run, apart.routerNamed?, apart.sinkNamed?]
  cases routerNamed? w router with
  | none => exact apart.reply _
  | some id =>
    cases sinkNamed? w sink with
    | none => exact apart.reply _
    | some target =>
      obtain ⟨x, y, route, here, there, later⟩ :=
        apart.step (blind_attach id patterns least target)
      cases route with
      | none =>
        simp only [here, there]
        exact later.reply _
      | some route =>
        simp only [here, there]
        exact ⟨later.keep name (.same _), .same _⟩

theorem keeps_newSink (name : String) :
    Keeps ref first second (ReplyAlike first second) (Step.newSink name).run := by
  intro w v apart
  have reading : v.timeOfDay .sink = w.timeOfDay .sink :=
    apart.read (·.timeOfDay .sink) fun _ _ _ _ => rfl
  simp only [Step.run, newSink_eq, reading]
  cases w.timeOfDay .sink with
  | error fault => exact apart.reply _
  | ok wall =>
    obtain ⟨x, y, id, here, there, later⟩ := apart.step (blind_newSink wall)
    simp only [Except.map, here, there, later.sinks]
    exact ⟨later.bind name (.same _), .same _⟩

theorem keeps_status (name : String) :
    Keeps ref first second (ReplyAlike first second) (Step.status name).run := by
  intro w v apart
  simp only [Step.run, statusNamed?]
  obtain same | ⟨a, b, here, there, alike⟩ := apart.lookup name
  · simp only [same, apart.sinks, apart.sessionStatus?]
    exact apart.reply _
  · rw [here, there]
    exact ⟨apart, .view alike⟩

theorem keeps_drain (name : String) :
    Keeps ref first second (ReplyAlike first second) (Step.drain name).run := by
  intro w v apart
  simp only [Step.run]
  obtain same | ⟨a, b, here, there, _⟩ := apart.lookup name
  · rw [same]
    cases w.lookup name with
    | none => exact apart.reply _
    | some object =>
      cases object with
      | sink id => exact apart.blindly (blind_drain id) .entries
      | session other => exact apart.blindly (blind_drainSession other) .entries
      | router | route | snapshot | view => exact apart.reply _
  · rw [here, there]
    exact apart.reply _

theorem keeps_drop (name : String) (failing : Bool) :
    Keeps ref first second (ReplyAlike first second) (Step.drop name failing).run := by
  intro w v apart
  simp only [Step.run]
  obtain same | ⟨a, b, here, there, _⟩ := apart.lookup name
  · rw [same]
    cases w.lookup name with
    | none => exact apart.reply _
    | some object => exact ⟨apart.unbind name, .same _⟩
  · rw [here, there]
    exact ⟨apart.unbind name, .same _⟩

theorem keeps_assertions (source : String) (limit : Option Nat) (name : String) :
    Keeps ref first second (ReplyAlike first second) (Step.assertions source limit name).run := by
  intro w v apart
  simp only [Step.run]
  obtain ⟨here, there⟩ | ⟨a, b, here, there, alike⟩ := apart.viewNamed? source
  · rw [here, there]
    exact apart.reply _
  · cases limit with
    | none =>
      simp only [here, there, Option.elim_none, alike.snapshot]
      exact ⟨apart.bind name (.view alike), .same _⟩
    | some limit =>
      simp only [here, there, Option.elim_some, alike.snapshot]
      exact ⟨apart.bind name (.same _), .same _⟩

theorem keeps_compare (source : String) (index : Nat) (other : String) (otherIndex : Nat) :
    Keeps ref first second (ReplyAlike first second)
      (Step.compare source index other otherIndex).run := by
  intro w v apart
  simp only [Step.run]
  obtain ⟨here, there⟩ | ⟨a, b, here, there, alike⟩ := apart.viewNamed? source
  · rw [here, there]
    exact apart.reply _
  · obtain ⟨here', there'⟩ | ⟨a', b', here', there', alike'⟩ := apart.viewNamed? other
    · rw [here, there, here', there']
      exact apart.reply _
    · simp only [here, there, here', there', alike.snapshot, alike'.snapshot]
      split <;> exact apart.reply _

/-- A step without others in it keeps worlds apart. -/
theorem keeps_of_plain {step : Step} (plain : step.isPlain = true) :
    Keeps ref first second (ReplyAlike first second) step.run := by
  intro w v apart
  cases step with
  | refused why => exact apart.reply _
  | advance nanos => exact apart.blindly (blind_advance nanos) fun _ => .done
  | newRouter name ownEvents =>
    obtain ⟨x, y, id, here, there, later⟩ := apart.step (blind_newRouter ownEvents)
    simp only [Step.run, here, there]
    exact ⟨later.bind name (.same _), .same _⟩
  | processRouter name =>
    have routes : v.routeCount World.processRouter = w.routeCount World.processRouter :=
      apart.read (·.routeCount World.processRouter) fun _ _ _ _ => rfl
    simp only [Step.run, routes]
    exact ⟨apart.keep name (.same _), .same _⟩
  | attach patterns router least sink name => exact keeps_attach _ _ _ _ _ w v apart
  | detach router route =>
    simp only [Step.run, apart.routerNamed?, apart.routeNamed?]
    cases routerNamed? w router with
    | none => exact apart.reply _
    | some id =>
      cases routeNamed? w route with
      | none => exact apart.reply _
      | some route => exact apart.blindly (blind_detach id route) .truth
  | routeCount router =>
    simp only [Step.run, apart.routerNamed?]
    cases routerNamed? w router with
    | none => exact apart.reply _
    | some id => exact apart.reading (·.routeCount id) (fun _ _ _ _ => rfl) .number
  | isInterested router logger level =>
    simp only [Step.run, apart.routerNamed?]
    cases routerNamed? w router with
    | none => exact apart.reply _
    | some id => exact apart.reading (·.isInterested id logger level) (fun _ _ _ _ => rfl) .truth
  | dispatch router event =>
    simp only [Step.run, apart.routerNamed?]
    cases routerNamed? w router with
    | none => exact apart.reply _
    | some id => exact apart.blindly (blind_dispatch id event) .number
  | logEnabled router target level =>
    simp only [Step.run, apart.routerNamed?]
    cases routerNamed? w router with
    | none => exact apart.reply _
    | some id => exact apart.reading (·.logEnabled id target level) (fun _ _ _ _ => rfl) .truth
  | logToProcess entry => exact apart.blindly (blind_logReady _ entry) fun _ => .done
  | trace event => exact apart.blindly (blind_trace event) fun _ => .done
  | operate nanos report =>
    exact apart.blindly ((blind_advance nanos).andThen fun _ => blind_trace _) fun _ => .done
  | newSink name => exact keeps_newSink name w v apart
  | record sink event =>
    simp only [Step.run, apart.sinkNamed?]
    cases sinkNamed? w sink with
    | none => exact apart.reply _
    | some id => exact apart.blindly (blind_record id event) .truth
  | recordMany sink level logger stem count =>
    simp only [Step.run, apart.sinkNamed?]
    cases sinkNamed? w sink with
    | none => exact apart.reply _
    | some id =>
      exact apart.blindly (blind_recordNumbered id level logger stem count 0) .number
  | status name => exact keeps_status name w v apart
  | drain name => exact keeps_drain name w v apart
  | freeze sink name =>
    simp only [Step.run, apart.sinkNamed?]
    cases sinkNamed? w sink with
    | none => exact apart.reply _
    | some id =>
      obtain ⟨x, y, frozen, here, there, later⟩ := apart.step (blind_freeze id)
      simp only [here, there]
      exact ⟨later.keep name (.same _), .same _⟩
  | snapshot source name =>
    simp only [Step.run]
    obtain ⟨here, there⟩ | ⟨a, b, here, there, alike⟩ := apart.viewNamed? source
    · rw [here, there]
      exact apart.reply _
    · simp only [here, there, alike.snapshot]
      exact ⟨apart.keep name (.same _), .same _⟩
  | emptySnapshot name => exact ⟨apart.keep name (.same _), .same _⟩
  | openSession id router patterns least name =>
    simp only [Step.run, apart.openingRouter?]
    cases openingRouter? w router with
    | none => exact apart.reply _
    | some on =>
      obtain ⟨x, y, result, here, there, later⟩ :=
        apart.step (blind_openSession id on patterns least)
      simp only [here, there]
      exact later.opened name result
  | openWithSettings id router settings name =>
    simp only [Step.run, apart.openingRouter?]
    cases openingRouter? w router with
    | none => exact apart.reply _
    | some on =>
      obtain ⟨x, y, result, here, there, later⟩ :=
        apart.step (blind_openWithSettings id on settings)
      simp only [here, there]
      exact later.opened name result
  | close session name =>
    simp only [Step.run, apart.sessionNamed?]
    cases sessionNamed? w session with
    | none => exact apart.reply _
    | some other =>
      obtain ⟨x, y, frozen, here, there, later⟩ := apart.step (blind_close other)
      simp only [here, there]
      exact ⟨later.keep name (.same _), .same _⟩
  | drop name failing => exact keeps_drop name failing w v apart
  | debug name =>
    simp only [Step.run, apart.debugNamed?]
    exact apart.reply _
  | assertions source limit name => exact keeps_assertions source limit name w v apart
  | query source query =>
    simp only [Step.run]
    obtain ⟨here, there⟩ | ⟨a, b, here, there, alike⟩ := apart.viewNamed? source
    · rw [here, there]
      exact apart.reply _
    · rw [here, there]
      exact ⟨apart, query.answer_alike alike⟩
  | compare source index other otherIndex => exact keeps_compare _ _ _ _ w v apart
  | dispatchWith | log | withCapture | capture | waitFor => contradiction

end Step

/-! ### Programs -/

/-- Replies that are alike one by one. -/
abbrev RepliesAlike (first second : Nat) : List Reply → List Reply → Prop :=
  List.Forall₂ (ReplyAlike first second)

/-- An event that is built in between is delivered alike, to what was selected before. -/
theorem Apart.dispatchWith {w v : World} (apart : Apart ref first second w v) (id : RouterId)
    (logger : String) (level : Level) (event : Event) {inner : World → World × List Reply}
    (keeps : Keeps ref first second (RepliesAlike first second) inner) :
    let build (w : World) : World × Event × List Reply := ((inner w).1, event, (inner w).2)
    ∃ x y delivered a b,
      w.dispatchWith id logger level build = (x, delivered, a) ∧
        v.dispatchWith id logger level build = (y, delivered, b) ∧
        Apart ref first second x y ∧ b.isSome = a.isSome ∧
        RepliesAlike first second (a.getD []) (b.getD []) := by
  intro build
  have targets : v.select id logger level = w.select id logger level :=
    apart.read (·.select id logger level) fun _ _ _ _ => rfl
  by_cases selected : w.select id logger level = []
  · exact ⟨w, v, 0, none, none, dispatchWith_of_unselected selected build,
      dispatchWith_of_unselected (targets.trans selected) build, apart, rfl, .nil⟩
  · obtain ⟨built, replies⟩ := keeps w v apart
    obtain ⟨x, y, delivered, here, there, later⟩ :=
      built.step (blind_recordAll (w.select id logger level) event)
    refine ⟨x, y, delivered, some (inner w).2, some (inner v).2, ?_, ?_, later, rfl, replies⟩
    · rw [dispatchWith_of_selected selected build]
      simp only [build, here]
    · rw [dispatchWith_of_selected (targets ▸ selected) build, targets]
      simp only [build, there]

theorem Apart.withSubscriber {w v : World} (apart : Apart ref first second w v) (id : RouterId)
    {inner : World → World × List Reply}
    (keeps : Keeps ref first second (RepliesAlike first second) inner) :
    Beside ref first second (RepliesAlike first second) (w.withSubscriber id inner)
      (v.withSubscriber id inner) := by
  have same : v.subscriber = w.subscriber := apart.read World.subscriber fun _ _ _ _ => rfl
  obtain ⟨ran, replies⟩ := keeps _ _ (apart.blind (blind_subscriber id)).1
  refine ⟨?_, replies⟩
  unfold World.withSubscriber
  rw [same]
  exact (ran.blind (blind_subscriber w.subscriber)).1

mutual

theorem Step.keeps :
    (step : Step) → Keeps ref first second (ReplyAlike first second) step.run
  | .dispatchWith router logger level event nested => by
    intro w v apart
    simp only [Step.run, apart.routerNamed?]
    cases routerNamed? w router with
    | none => exact apart.reply _
    | some id =>
      obtain ⟨x, y, delivered, a, b, here, there, later, built, replies⟩ :=
        apart.dispatchWith id logger level event (runAll_keeps nested)
      simp only [here, there, built]
      exact ⟨later, .emission delivered a.isSome replies⟩
  | .log router entry nested => by
    intro w v apart
    simp only [Step.run, apart.routerNamed?]
    cases routerNamed? w router with
    | none => exact apart.reply _
    | some id =>
      obtain ⟨x, y, delivered, a, b, here, there, later, _, replies⟩ :=
        apart.dispatchWith id entry.logger entry.level entry.captured (runAll_keeps nested)
      simp only [World.log, here, there]
      exact ⟨later, .logged replies⟩
  | .withCapture router steps => by
    intro w v apart
    simp only [Step.run, apart.routerNamed?]
    cases routerNamed? w router with
    | none => exact apart.reply _
    | some id =>
      obtain ⟨later, replies⟩ := apart.withSubscriber id (runAll_keeps steps)
      exact ⟨later, .several replies⟩
  | .capture id patterns least steps name => by
    intro w v apart
    obtain ⟨x, y, result, here, there, opened⟩ :=
      apart.step (blind_openSession id World.processRouter patterns least)
    cases result with
    | error fault =>
      simp only [Step.run, World.capture, here, there]
      exact opened.reply _
    | ok other =>
      obtain ⟨ran, replies⟩ := runAll_keeps steps x y opened
      obtain ⟨x', y', frozen, here', there', later⟩ := ran.step (blind_close other)
      simp only [Step.run, World.capture, here, there, here', there']
      exact ⟨later.keep name (.view (later.viewOf frozen other)), .captured replies frozen⟩
  | .waitFor session filter policy others => by
    intro w v apart
    simp only [Step.run, apart.sessionNamed?]
    cases sessionNamed? w session with
    | none => exact apart.reply _
    | some other =>
      obtain ⟨later, result, elapsed, during, left⟩ :=
        apart.waitFor other filter policy (dueSteps_keep others)
      simp only [elapsed, left]
      exact ⟨later, .waited result _ during _⟩
  | .refused _ | .advance _ | .newRouter _ _ | .processRouter _ | .attach _ _ _ _ _ | .detach _ _
  | .routeCount _ | .isInterested _ _ _ | .dispatch _ _ | .logEnabled _ _ _ | .logToProcess _
  | .trace _ | .operate _ _ | .newSink _ | .record _ _ | .recordMany _ _ _ _ _ | .status _
  | .drain _ | .freeze _ _ | .snapshot _ _ | .emptySnapshot _ | .openSession _ _ _ _ _
  | .openWithSettings _ _ _ _ | .close _ _ | .drop _ _ | .debug _ | .assertions _ _ _ | .query _ _
  | .compare _ _ _ _ => Step.keeps_of_plain rfl

theorem runAll_keeps :
    (steps : List Step) → Keeps ref first second (RepliesAlike first second) (runAll steps)
  | [] => fun _ _ apart => ⟨apart, .nil⟩
  | step :: rest => by
    intro w v apart
    obtain ⟨ran, reply⟩ := step.keeps w v apart
    obtain ⟨later, replies⟩ := runAll_keeps rest _ _ ran
    exact ⟨later, .cons reply replies⟩

theorem dueSteps_keep : (others : List (Nat × Step)) → AllKeep ref first second (dueSteps others)
  | [] => fun _ member => absurd member List.not_mem_nil
  | entry :: rest => by
    rw [AllKeep, dueSteps, List.forall_mem_cons]
    exact ⟨dueStep_keeps entry, dueSteps_keep rest⟩

theorem dueStep_keeps : (entry : Nat × Step) →
    Keeps ref first second (ReplyAlike first second) (dueStep entry).act
  | (_, step) => step.keeps

end

end

end EventCapture.Scenario
