import EventCapture.Facade.Trace
import Mathlib.Data.List.Induction

/-! What is kept of the visits of a structured event.

Of every name the text of its last visit is kept, in the place that belongs to the name: the message,
the kind of the attached error, or a field. Two things are lost or misplaced. A kind for which there
is no error has nothing it could be the kind of. An error value is kept as a field, even under a name
that is lifted.
-/

set_option autoImplicit false

namespace EventCapture.Facade

def FieldValue.isError : FieldValue → Bool
  | .error _ _ => true
  | _ => false

/-- The names whose texts are lifted out of the fields. -/
def isLifted (name : String) : Bool := name == Schema.message || name == Schema.errorKind

namespace Visit

/-- An error value is attached, and so is the text under the name of an error. -/
def attaches (field : Visit) : Bool := field.value.isError || field.name == Schema.error

/-- An error value under a certain name. -/
def isErrorUnder (name : String) (field : Visit) : Bool :=
  field.value.isError && field.name == name

end Visit

/-- The text of the last visit of a name. -/
def lastText? (visits : List Visit) (name : String) : Option String :=
  (visits.reverse.find? fun field => field.name == name).map fun field => field.value.kept

theorem lastText?_concat (visits : List Visit) (field : Visit) (name : String) :
    lastText? (visits ++ [field]) name =
      if field.name = name then some field.value.kept else lastText? visits name := by
  rw [lastText?, List.reverse_concat]
  split
  case isTrue same => rw [List.find?_cons_of_pos (by simpa using same), Option.map_some]
  case isFalse other =>
    rw [List.find?_cons_of_neg (by simpa using other)]
    rfl

namespace Gathering

variable {gathering : Gathering} {field : Visit} {visits : List Visit} {name : String}

/-- The text that is kept of a name, in the place that belongs to the name. -/
def text? (gathering : Gathering) (name : String) : Option String :=
  if name = Schema.message then gathering.message
  else if name = Schema.errorKind then gathering.errorKind
  else gathering.fields.get? name

theorem text?_of_not_lifted (plain : isLifted name = false) :
    gathering.text? name = gathering.fields.get? name := by
  simp only [isLifted, Bool.or_eq_false_iff, beq_eq_false_iff_ne] at plain
  rw [text?, if_neg plain.1, if_neg plain.2]

theorem visit_of_isError (gathering : Gathering) (isError : field.value.isError = true) :
    (gathering.visit field).message = gathering.message ∧
      (gathering.visit field).errorKind = gathering.errorKind ∧
      (gathering.visit field).fields = gathering.fields.insert field.name field.value.kept := by
  obtain ⟨name, value⟩ := field
  cases value with
  | error => exact ⟨rfl, rfl, rfl⟩
  | text | integer | boolean | real | shown => contradiction

theorem visit_of_not_isError (isText : field.value.isError = false) :
    gathering.visit field = gathering.visitText field.name field.value.kept := by
  obtain ⟨name, value⟩ := field
  cases value with
  | error => contradiction
  | text | integer | boolean | real | shown => rfl

/-- A text takes the place that belongs to its name, and no other. -/
theorem text?_visitText (gathering : Gathering) (name text other : String) :
    (gathering.visitText name text).text? other =
      if name = other then some text else gathering.text? other := by
  have apart : Schema.message ≠ Schema.errorKind := by decide
  have notMessage : Schema.error ≠ Schema.message := by decide
  have notKind : Schema.error ≠ Schema.errorKind := by decide
  unfold visitText text?
  grind [keep, Fields.get?_insert]

theorem fields_visitText (gathering : Gathering) (name text : String) :
    (gathering.visitText name text).fields =
      if isLifted name then gathering.fields else gathering.fields.insert name text := by
  have notMessage : Schema.error ≠ Schema.message := by decide
  have notKind : Schema.error ≠ Schema.errorKind := by decide
  unfold visitText isLifted
  grind [keep]

/-- One visit, unless it is of an error value under a lifted name: its text is kept where it
belongs. -/
theorem text?_visit (gathering : Gathering)
    (lawful : isLifted name = true → field.isErrorUnder name = false) :
    (gathering.visit field).text? name =
      if field.name = name then some field.value.kept else gathering.text? name := by
  cases kind : field.value.isError with
  | false => rw [visit_of_not_isError kind, text?_visitText]
  | true =>
    obtain ⟨message, errorKind, fields⟩ := visit_of_isError gathering kind
    cases lifted : isLifted name with
    | false =>
      rw [text?_of_not_lifted lifted, text?_of_not_lifted lifted, fields, Fields.get?_insert]
      simp only [eq_comm]
    | true =>
      have other : field.name ≠ name := by simpa [Visit.isErrorUnder, kind] using lawful lifted
      rw [if_neg other, text?, text?, message, errorKind, fields, Fields.get?_insert,
        if_neg other.symm]

/-- A lifted name gets no field. -/
theorem get?_fields_visit (gathering : Gathering) (lifted : isLifted name = true)
    (lawful : field.isErrorUnder name = false) :
    (gathering.visit field).fields.get? name = gathering.fields.get? name := by
  cases kind : field.value.isError with
  | false =>
    rw [visit_of_not_isError kind, fields_visitText]
    split
    case isTrue => rfl
    case isFalse plain =>
      have other : name ≠ field.name := fun same => plain (same ▸ lifted)
      rw [Fields.get?_insert, if_neg other]
  | true =>
    obtain ⟨_, _, fields⟩ := visit_of_isError gathering kind
    have other : field.name ≠ name := by simpa [Visit.isErrorUnder, kind] using lawful
    rw [fields, Fields.get?_insert, if_neg other.symm]

/-- Once an error is attached there always is one. -/
theorem isSome_error_visit (gathering : Gathering) (field : Visit) :
    (gathering.visit field).error.isSome = (gathering.error.isSome || field.attaches) := by
  obtain ⟨name, value⟩ := field
  have notMessage : Schema.error ≠ Schema.message := by decide
  have notKind : Schema.error ≠ Schema.errorKind := by decide
  cases value with
  | error first sources =>
    simp only [visit, visitError, keep, Visit.attaches, FieldValue.isError, Bool.true_or,
      Bool.or_true]
    split
    case isTrue => rfl
    case isFalse later => exact Option.isSome_iff_ne_none.mpr fun none => later (.inr none)
  | text | integer | boolean | real | shown =>
    simp only [visit, Visit.attaches, FieldValue.isError, Bool.false_or]
    unfold visitText
    grind [keep]

theorem ofVisits_concat (visits : List Visit) (field : Visit) :
    ofVisits (visits ++ [field]) = (ofVisits visits).visit field := List.foldl_append

/-- The text of the last visit is kept where it belongs, if under a lifted name there are only
texts. -/
theorem text?_ofVisits
    (lawful : isLifted name = true → visits.any (Visit.isErrorUnder name) = false) :
    (ofVisits visits).text? name = lastText? visits name := by
  induction visits using List.reverseRecOn with
  | nil =>
    unfold text?
    split
    case isTrue => rfl
    case isFalse => split <;> rfl
  | append_singleton visits field ih =>
    simp only [List.any_append, List.any_cons, List.any_nil, Bool.or_false,
      Bool.or_eq_false_iff] at lawful
    rw [ofVisits_concat, lastText?_concat, text?_visit _ fun lifted => (lawful lifted).2,
      ih fun lifted => (lawful lifted).1]

theorem get?_fields_ofVisits (lifted : isLifted name = true)
    (lawful : visits.any (Visit.isErrorUnder name) = false) :
    (ofVisits visits).fields.get? name = none := by
  induction visits using List.reverseRecOn with
  | nil => rfl
  | append_singleton visits field ih =>
    simp only [List.any_append, List.any_cons, List.any_nil, Bool.or_false,
      Bool.or_eq_false_iff] at lawful
    rw [ofVisits_concat, get?_fields_visit _ lifted lawful.2, ih lawful.1]

theorem isSome_error_ofVisits (visits : List Visit) :
    (ofVisits visits).error.isSome = visits.any Visit.attaches := by
  induction visits using List.reverseRecOn with
  | nil => rfl
  | append_singleton visits field ih =>
    rw [ofVisits_concat, isSome_error_visit, ih, List.any_append, List.any_cons, List.any_nil,
      Bool.or_false]

theorem isSome_error_event (gathering : Gathering) (level : Level) (logger : String) :
    (gathering.event level logger).error.isSome = gathering.error.isSome := by
  rw [event]
  cases gathering.error <;> cases gathering.errorKind <;> rfl

/-- The kind of the attached error is replaced if a kind was visited. -/
theorem kind_event (gathering : Gathering) (level : Level) (logger : String) {error : ErrorChain}
    (attached : (gathering.event level logger).error = some error) {kind : String}
    (visited : gathering.errorKind = some kind) : error.head.kind = kind := by
  rw [event, visited] at attached
  cases origin : gathering.error with
  | none => simp [origin] at attached
  | some first =>
    rw [origin] at attached
    rw [← Option.some.inj attached]
    rfl

/-- Nothing is lost: every name has the text of its last visit in its place, and no field has a
lifted name. -/
structure KeepsAll (visits : List Visit) (event : Event) : Prop where
  message : event.message = (lastText? visits Schema.message).getD ""
  kind : ∀ text, lastText? visits Schema.errorKind = some text →
    event.error.map (fun error => error.head.kind) = some text
  others : ∀ name, isLifted name = false → event.fields.get? name = lastText? visits name
  apart : ∀ name, isLifted name = true → event.fields.get? name = none

/-- A kind is lost where there is no error, and an error value under the name of the message does
not become the message. -/
theorem not_keepsAll_of_lone_kind_or_error_message :
    let alone : List Visit := [⟨Schema.errorKind, .text "Io"⟩]
    let astray : List Visit := [⟨Schema.message, .error ⟨"Boom", "boom"⟩ []⟩]
    ¬ KeepsAll alone ((ofVisits alone).event .info "app") ∧
      ¬ KeepsAll astray ((ofVisits astray).event .info "app") := by
  refine ⟨fun keeps => ?_, fun keeps => ?_⟩
  · have unattached := keeps.kind "Io" (by decide +kernel)
    contradiction
  · have empty : "" = "boom" := keeps.message
    contradiction

/-- Every name has the text of its last visit in its place, the kind if there is an error whose kind
it can be, and lifted names get no field. Only where error values are visited under a lifted name is
nothing said about that name. -/
theorem lifts_last_texts (visits : List Visit) (level : Level) (logger : String) :
    let event := (ofVisits visits).event level logger
    event.error.isSome = visits.any Visit.attaches ∧
      (∀ name, isLifted name = false → event.fields.get? name = lastText? visits name) ∧
      (visits.any (Visit.isErrorUnder Schema.message) = false →
        event.message = (lastText? visits Schema.message).getD "" ∧
          event.fields.get? Schema.message = none) ∧
      (visits.any (Visit.isErrorUnder Schema.errorKind) = false →
        event.fields.get? Schema.errorKind = none ∧
          ∀ text, lastText? visits Schema.errorKind = some text →
            ∀ error, event.error = some error → error.head.kind = text) := by
  intro event
  refine ⟨?_, fun name plain => ?_, fun lawful => ⟨?_, ?_⟩,
    fun lawful => ⟨?_, fun text visited error attached => ?_⟩⟩
  · rw [isSome_error_event, isSome_error_ofVisits]
  · have kept : (ofVisits visits).text? name = lastText? visits name :=
      text?_ofVisits fun lifted => absurd (lifted.symm.trans plain) (by decide)
    rwa [text?_of_not_lifted plain] at kept
  · have kept : (ofVisits visits).message = lastText? visits Schema.message :=
      text?_ofVisits fun _ => lawful
    rw [← kept]
    rfl
  · exact get?_fields_ofVisits rfl lawful
  · exact get?_fields_ofVisits rfl lawful
  · have kept : (ofVisits visits).errorKind = lastText? visits Schema.errorKind :=
      text?_ofVisits fun _ => lawful
    exact kind_event _ level logger attached (kept.trans visited)

/-- Two messages, two values of one field, and an error with a kind of its own that is replaced. -/
theorem lifts_last_texts_repeated :
    let boom : ErrorFace := ⟨"Boom", "boom"⟩
    let visits : List Visit :=
      [⟨Schema.message, .text "first"⟩, ⟨"size", .integer 3⟩, ⟨Schema.errorKind, .text "Io"⟩,
        ⟨Schema.error, .error boom []⟩, ⟨Schema.message, .shown "second"⟩, ⟨"size", .boolean true⟩]
    let event := (ofVisits visits).event .info "app"
    event.error.map (fun error => error.head.kind) = some "Io" ∧ event.message = "second" ∧
      event.fields.get? "size" = some "true" ∧ event.fields.get? Schema.error = some "boom" ∧
      event.fields.get? Schema.message = none ∧ event.fields.get? Schema.errorKind = none := by
  intro boom visits event
  obtain ⟨attached, others, message, kind⟩ := lifts_last_texts visits .info "app"
  obtain ⟨second, noMessage⟩ := message (by decide +kernel)
  obtain ⟨noKind, replaced⟩ := kind (by decide +kernel)
  obtain ⟨error, found⟩ := Option.isSome_iff_exists.mp (attached.trans (by decide +kernel))
  have io : error.head.kind = "Io" := replaced "Io" (by decide +kernel) error found
  have size := others "size" (by decide +kernel)
  have text := others Schema.error (by decide +kernel)
  exact ⟨(congrArg _ found).trans (congrArg some io), second.trans (by decide +kernel),
    size.trans (by decide +kernel), text.trans (by decide +kernel), noMessage, noKind⟩

end Gathering

end EventCapture.Facade
