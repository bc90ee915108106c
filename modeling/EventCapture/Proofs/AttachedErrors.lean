import EventCapture.Proofs.FieldVisits

/-! Which error a structured event carries.

There is one place for it, and three rules fill it while the fields are visited. An error value under
the name of an error always takes the place. An error value under another name, and a text under the
name of an error, take it only while it is free. So what is visited later matters in the first case
and what is visited earlier in the others. A kind of its own is put in at the end.
-/

set_option autoImplicit false

namespace EventCapture.Facade

/-- The error that a visit stands for when it is attached. -/
def Visit.attachment (field : Visit) : ErrorChain :=
  match field.value with
  | .error first sources =>
    ⟨ErrorChain.entryOf first,
      (sources.take (ErrorChain.longest - 1)).map ErrorChain.entryOf⟩
  | value => ⟨⟨ErrorChain.plainKind, value.kept⟩, []⟩

/-- The visit whose error is attached: the last error value under the name of an error, and if there
is none, the first visit that attaches an error at all. -/
def ranking? (visits : List Visit) : Option Visit :=
  (visits.reverse.find? (Visit.isErrorUnder Schema.error)).or (visits.find? Visit.attaches)

def texts (visits : List Visit) : List Visit := visits.filter fun field => !field.value.isError

def errorValues (visits : List Visit) : List Visit := visits.filter fun field => field.value.isError

theorem texts_concat (visits : List Visit) (field : Visit) :
    texts (visits ++ [field]) = texts visits ++ if field.value.isError then [] else [field] := by
  rw [texts, List.filter_append, ← texts, List.filter_cons, List.filter_nil]
  cases field.value.isError <;> rfl

theorem errorValues_concat (visits : List Visit) (field : Visit) :
    errorValues (visits ++ [field]) =
      errorValues visits ++ if field.value.isError then [field] else [] := by
  rw [errorValues, List.filter_append, ← errorValues, List.filter_cons, List.filter_nil]

/-- One more visit takes the place of the error, or has it if it is still free. -/
theorem ranking?_concat (visits : List Visit) (field : Visit) :
    ranking? (visits ++ [field]) =
      if field.isErrorUnder Schema.error then some field
      else (ranking? visits).or (if field.attaches then some field else none) := by
  unfold ranking?
  rw [List.reverse_concat, List.find?_cons, List.find?_append, List.find?_singleton]
  cases field.isErrorUnder Schema.error with
  | true => rfl
  | false => rw [if_neg Bool.false_ne_true, Option.or_assoc]

namespace Gathering

variable {gathering : Gathering} {field : Visit} {visits : List Visit} {name : String}

/-! ### One visit -/

theorem error_visitText (gathering : Gathering) (name text : String) :
    (gathering.visitText name text).error =
      if name = Schema.error then some (gathering.error.getD ⟨⟨ErrorChain.plainKind, text⟩, []⟩)
      else gathering.error := by
  have notMessage : Schema.error ≠ Schema.message := by decide
  have notKind : Schema.error ≠ Schema.errorKind := by decide
  unfold visitText
  grind [keep, ErrorChain.ofMessage]

/-- How one visit treats the place of the error. -/
theorem error_visit (gathering : Gathering) (field : Visit) :
    (gathering.visit field).error =
      if field.isErrorUnder Schema.error then some field.attachment
      else gathering.error.or (if field.attaches then some field.attachment else none) := by
  obtain ⟨name, value⟩ := field
  cases value with
  | error first sources =>
    simp only [visit, visitError, keep, Visit.isErrorUnder, Visit.attaches, Visit.attachment,
      FieldValue.isError, Bool.true_and, Bool.true_or, if_true, beq_iff_eq, ErrorChain.ofFaces_eq]
    by_cases same : name = Schema.error
    · rw [if_pos (.inl same), if_pos same]
    · cases gathering.error <;> simp [same]
  | text | integer | boolean | real | shown =>
    rw [visit_of_not_isError rfl, error_visitText]
    simp only [Visit.isErrorUnder, Visit.attaches, Visit.attachment, FieldValue.isError,
      Bool.false_and, Bool.false_or, Bool.false_eq_true, if_false, beq_iff_eq]
    by_cases same : name = Schema.error
    · cases gathering.error <;> simp [same]
    · simp [same]

theorem errorKind_visitText (gathering : Gathering) (name text : String) :
    (gathering.visitText name text).errorKind =
      if name = Schema.errorKind then some text else gathering.errorKind := by
  have apart : Schema.message ≠ Schema.errorKind := by decide
  unfold visitText
  grind [keep]

/-! ### All visits -/

theorem error_ofVisits (visits : List Visit) :
    (ofVisits visits).error = (ranking? visits).map Visit.attachment := by
  induction visits using List.reverseRecOn with
  | nil => rfl
  | append_singleton visits field ih =>
    rw [ofVisits_concat, error_visit, ranking?_concat, ih]
    cases field.isErrorUnder Schema.error with
    | true => rfl
    | false => cases ranking? visits <;> cases field.attaches <;> rfl

/-- Only texts are taken for a kind. -/
theorem errorKind_ofVisits (visits : List Visit) :
    (ofVisits visits).errorKind = lastText? (texts visits) Schema.errorKind := by
  induction visits using List.reverseRecOn with
  | nil => rfl
  | append_singleton visits field ih =>
    rw [ofVisits_concat, texts_concat]
    cases kind : field.value.isError with
    | true => rw [(visit_of_isError _ kind).2.1, ih, if_pos rfl, List.append_nil]
    | false =>
      rw [visit_of_not_isError kind, errorKind_visitText, ih, if_neg Bool.false_ne_true,
        lastText?_concat]

/-- Under a lifted name only error values are kept as fields. -/
theorem get?_fields_of_lifted (visits : List Visit) (lifted : isLifted name = true) :
    (ofVisits visits).fields.get? name = lastText? (errorValues visits) name := by
  induction visits using List.reverseRecOn with
  | nil => rfl
  | append_singleton visits field ih =>
    rw [ofVisits_concat, errorValues_concat]
    cases kind : field.value.isError with
    | true =>
      rw [(visit_of_isError _ kind).2.2, Fields.get?_insert, ih, if_pos rfl, lastText?_concat]
      simp only [eq_comm]
    | false =>
      have isText : field.isErrorUnder name = false := by
        rw [Visit.isErrorUnder, kind, Bool.false_and]
      rw [get?_fields_visit _ lifted isText, ih, if_neg Bool.false_ne_true, List.append_nil]

theorem get?_fields_of_plain (visits : List Visit) (plain : isLifted name = false) :
    (ofVisits visits).fields.get? name = lastText? visits name := by
  rw [← text?_of_not_lifted plain]
  exact text?_ofVisits fun lifted => absurd (lifted.symm.trans plain) (by decide)

/-- A kind of its own replaces the outermost one and nothing else. -/
theorem error_event (gathering : Gathering) (level : Level) (logger : String) :
    (gathering.event level logger).error =
      gathering.error.map fun error =>
        ⟨⟨gathering.errorKind.getD error.head.kind, error.head.message⟩, error.causes⟩ := by
  rw [event]
  cases gathering.error <;> cases gathering.errorKind <;> rfl

/-- Under the name of an error, and under every name of an error value, the last text would be kept
as a field. -/
def KeepsErrorTexts (visits : List Visit) (event : Event) : Prop :=
  ∀ name, name = Schema.error ∨ visits.any (Visit.isErrorUnder name) = true →
    event.fields.get? name = lastText? visits name

/-- A text that is lifted is not kept as a field, also when an error value of that name is. -/
theorem not_keepsErrorTexts_of_lifted_text :
    let visits : List Visit :=
      [⟨Schema.message, .error ⟨"Boom", "boom"⟩ []⟩, ⟨Schema.message, .text "hello"⟩]
    ¬ KeepsErrorTexts visits ((ofVisits visits).event .info "app") := by
  intro visits keeps
  have last := keeps Schema.message (.inr (by decide +kernel))
  have kept : ((ofVisits visits).event .info "app").fields.get? Schema.message = some "boom" := by
    decide +kernel
  rw [kept] at last
  exact absurd last (by decide +kernel)

/-- An event carries an error just when an error value or a text under the name of an error was
visited. The last error value under that name outranks all others; without one the first visit of
them all counts. A text for the kind replaces the outermost kind alone. Whichever is chosen, of the
name of an error and of every error value the last text is kept as a field; of a lifted name that is
the last of its error values. -/
theorem attaches_ranking_error (visits : List Visit) (level : Level) (logger : String) :
    let event := (ofVisits visits).event level logger
    (event.error = none ↔
        ∀ field ∈ visits, field.value.isError = false ∧ field.name ≠ Schema.error) ∧
      (event.error = (ranking? visits).map fun field =>
        { head :=
            { kind := (lastText? (texts visits) Schema.errorKind).getD field.attachment.head.kind
              message := field.attachment.head.message }
          causes := field.attachment.causes }) ∧
      (∀ name, isLifted name = false → event.fields.get? name = lastText? visits name) ∧
      ∀ name, isLifted name = true → event.fields.get? name = lastText? (errorValues visits) name := by
  intro event
  refine ⟨?_, ?_, fun name => get?_fields_of_plain visits, fun name => get?_fields_of_lifted visits⟩
  · rw [← Option.not_isSome_iff_eq_none, isSome_error_event, isSome_error_ofVisits]
    simp [Visit.attaches]
  · rw [error_event, error_ofVisits, errorKind_ofVisits, Option.map_map]
    rfl

/-- A text comes first, but two error values follow under the name of an error. The last of them has
more causes than are kept. -/
theorem attaches_ranking_error_overtaken :
    let deep : ErrorFace := ⟨"Deep", "deep"⟩
    let last : Visit := ⟨Schema.error, .error ⟨"Last(3)", "last"⟩ (List.replicate 40 deep)⟩
    let visits : List Visit :=
      [⟨Schema.error, .text "first"⟩, ⟨"cause", .error ⟨"Cause", "other"⟩ []⟩,
        ⟨Schema.error, .error ⟨"Early", "early"⟩ []⟩, ⟨Schema.errorKind, .text "Io"⟩, last,
        ⟨Schema.errorKind, .shown "Final"⟩, ⟨"cause", .boolean true⟩,
        ⟨Schema.message, .error ⟨"Boom", "boom"⟩ []⟩, ⟨Schema.message, .text "hello"⟩]
    let event := (ofVisits visits).event .info "app"
    (isLifted Schema.error = false ∧ isLifted "cause" = false ∧ isLifted Schema.message = true) ∧
      event.error = some ⟨⟨"Final", "last"⟩, List.replicate 31 (ErrorChain.entryOf deep)⟩ ∧
      event.fields.get? Schema.error = some "last" ∧ event.fields.get? "cause" = some "true" ∧
      event.fields.get? Schema.message = some "boom" := by
  intro deep last visits event
  obtain ⟨_, attached, plain, lifted⟩ := attaches_ranking_error visits .info "app"
  have names : isLifted Schema.error = false ∧ isLifted "cause" = false ∧
      isLifted Schema.message = true := by decide +kernel
  have outranks : ranking? visits = some last := by decide +kernel
  have kind : lastText? (texts visits) Schema.errorKind = some "Final" := by decide +kernel
  have causes : last.attachment.causes = List.replicate 31 (ErrorChain.entryOf deep) := by
    simp [last, Visit.attachment, ErrorChain.longest]
  refine ⟨names, ?_, ?_, ?_, ?_⟩
  · rw [attached, outranks, kind, Option.map_some, causes]
    rfl
  · exact (plain Schema.error names.1).trans (by decide +kernel)
  · exact (plain "cause" names.2.1).trans (by decide +kernel)
  · exact (lifted Schema.message names.2.2).trans (by decide +kernel)

end Gathering

end EventCapture.Facade
