import EventCapture.Proofs.Operations

/-! The ways to emit a message agree.

A structured event with nothing but a message, a log entry that does not say where it comes from,
and an event that is ready to be dispatched are built by three different roads. All of them end in
one plain event under the logger name that the target is written for, recorded in what the table of
the router selects for it.
-/

set_option autoImplicit false

namespace EventCapture

namespace Facade

/-- A structured event with a text as its message and no other field. -/
def TraceEvent.ofMessage (target : String) (level : Level) (value : FieldValue) : TraceEvent :=
  ⟨target, level, [⟨Schema.message, value⟩]⟩

/-- A log entry that does not say where in the program it comes from. -/
def LogEntry.ofMessage (target : String) (level : Level) (message : String) : LogEntry :=
  ⟨target, level, message, none, none, none⟩

theorem TraceEvent.captured_text (target : String) (level : Level) (message : String) :
    (TraceEvent.ofMessage target level (.text message)).captured =
      Event.plain level (Name.ofTarget target) message := rfl

theorem TraceEvent.captured_shown (target : String) (level : Level) (message : String) :
    (TraceEvent.ofMessage target level (.shown message)).captured =
      Event.plain level (Name.ofTarget target) message := rfl

theorem LogEntry.captured_ofMessage (target : String) (level : Level) (message : String) :
    (LogEntry.ofMessage target level message).captured =
      Event.plain level (Name.ofTarget target) message := rfl

end Facade

namespace World

/-- An event that needs no building is recorded in what is selected for it. -/
theorem dispatchWith_ready {α : Type} (w : World) (id : RouterId) (logger : String) (level : Level)
    (event : Event) (result : α) :
    (w.dispatchWith id logger level fun w => (w, event, result)).1 =
      (w.recordAll (w.select id logger level) event).1 := by
  by_cases selected : w.select id logger level = []
  · rw [dispatchWith_of_unselected selected, selected]
    rfl
  · rw [dispatchWith_of_selected selected]

/-- Who is the subscriber is no concern of the sinks. -/
theorem recordAll_subscriber (w : World) (subscriber : RouterId) (ids : List SinkId)
    (event : Event) :
    (({ w with subscriber := subscriber } : World).recordAll ids event).1 =
      { (w.recordAll ids event).1 with subscriber := subscriber } := by
  induction ids generalizing w with
  | nil => rfl
  | cons id rest ih =>
    have first : (({ w with subscriber := subscriber } : World).record id event).1 =
        { (w.record id event).1 with subscriber := subscriber } := by
      unfold record
      rw [show ({ w with subscriber := subscriber } : World).sink? id = w.sink? id from rfl]
      cases w.sink? id <;> rfl
    simp only [recordAll, first]
    exact ih (w.record id event).1

/-- Emit a structured event with a router as the subscriber. -/
def traceTo (w : World) (id : RouterId) (event : Facade.TraceEvent) : World :=
  (w.withSubscriber id fun w => (w.trace event, ())).1

/-- Emit a log entry to a router; formatting its message does nothing else. -/
def logTo (w : World) (id : RouterId) (entry : Facade.LogEntry) : World :=
  (w.log id entry fun w => (w, ())).1

theorem traceTo_eq (w : World) (id : RouterId) (event : Facade.TraceEvent) :
    w.traceTo id event = (w.recordAll (w.select id event.logger event.level) event.captured).1 := by
  have same := (atOnce_recordAll w (w.select id event.logger event.level) event.captured).subscriber
  unfold traceTo withSubscriber
  simp only [trace_eq, recordAll_subscriber]
  rw [← same]
  rfl

theorem logTo_eq (w : World) (id : RouterId) (entry : Facade.LogEntry) :
    w.logTo id entry = (w.recordAll (w.select id entry.logger entry.level) entry.captured).1 :=
  w.dispatchWith_ready id entry.logger entry.level entry.captured ()

/-- However a message is emitted under a target, the same is left. -/
structure LeadsAllTo (w : World) (router : RouterId) (target : String) (level : Level)
    (message : String) (after : World) : Prop where
  text : w.traceTo router (.ofMessage target level (.text message)) = after
  shown : w.traceTo router (.ofMessage target level (.shown message)) = after
  entry : w.logTo router (.ofMessage target level message) = after

theorem leadsAllTo (w : World) (router : RouterId) (target : String) (level : Level)
    (message : String) :
    LeadsAllTo w router target level message
      (w.recordAll (w.select router (Name.ofTarget target) level)
        (Event.plain level (Name.ofTarget target) message)).1 := by
  constructor
  · rw [traceTo_eq, Facade.TraceEvent.captured_text]
    rfl
  · rw [traceTo_eq, Facade.TraceEvent.captured_shown]
    rfl
  · rw [logTo_eq, Facade.LogEntry.captured_ofMessage]
    rfl

/-- A message under a target reaches the same sinks in the same order, as the same record in each of
them, however it is emitted and whichever way the target is written, and nothing else is changed. -/
theorem emissions_agree (w : World) (router : RouterId) (target : String) (level : Level)
    (message : String) :
    let logger := Name.ofTarget target
    let event := Event.plain level logger message
    let targets := w.select router logger level
    let after := (w.dispatch router event).1
    LeadsAllTo w router target level message after ∧
      LeadsAllTo w router logger level message after ∧
      after = (w.recordAll targets event).1 ∧
      (∀ id, after.sink? id =
        (w.sink? id).map (fun sink => (sink.record w.elapsed event).1)^[targets.count id]) ∧
      after.routers = w.routers ∧ event.error = none ∧ event.fields = Fields.empty := by
  intro logger event targets after
  have reached : after = (w.recordAll targets event).1 := congrArg Prod.fst (w.dispatch_eq router event)
  have dotted := leadsAllTo w router logger level message
  rw [Name.ofTarget_ofTarget] at dotted
  rw [reached]
  exact ⟨leadsAllTo w router target level message, dotted, rfl, w.sink?_recordAll targets event,
    (w.steady_recordAll targets event).routers, rfl, rfl⟩

end World

end EventCapture
