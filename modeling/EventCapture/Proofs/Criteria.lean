import EventCapture.Filter
import Mathlib.Data.List.Induction

/-! What a filter asks of a record, read off the calls that built it.

A call takes a place in the filter, and a later call for the same place takes it over; only the
places of required fields are never taken over. So a record passes when it satisfies the calls that
are still in force. The induction is from the last call backwards, one place at a time.
-/

set_option autoImplicit false

namespace EventCapture

namespace MessageTest

theorem occursIn_iff {needle text : List Char} :
    occursIn needle text = true ↔ needle <:+: text := by
  induction text with
  | nil => simp [occursIn]
  | cons c rest ih =>
    rw [occursIn, Bool.or_eq_true, List.isPrefixOf_iff_prefix, ih, List.infix_cons_iff]

end MessageTest

namespace Filter

/-- The places that calls take. -/
inductive Slot where
  | level
  | logger
  | message
  | window
  | hasError
  | field
  deriving DecidableEq, Repr

namespace Call

def slot : Call → Slot
  | .level _ | .atLeast _ => .level
  | .logger _ => .logger
  | .message _ => .message
  | .within _ => .window
  | .hasError _ => .hasError
  | .field _ _ => .field

/-- What a call asks of a record, without regard to other calls. -/
def Asks (record : Record) : Call → Prop
  | .level wanted => record.event.level = wanted
  | .atLeast least => least ≤ record.event.level
  | .logger pattern => pattern.matchesName record.event.logger = true
  | .message (.contains needle) => needle.toList <:+: record.event.message.toList
  | .message (.equals wanted) => record.event.message = wanted
  | .message (.matching test) => test.accepts record.event.message = true
  | .within window => window.contains record.timestamp = true
  | .hasError present => record.event.error.isSome = present
  | .field name text => record.event.fields.get? name = some text

end Call

/-- A call is in force if it requires a field, or no later call is for its place. -/
def InForce (calls : List Call) (call : Call) : Prop :=
  ∃ before after, calls = before ++ call :: after ∧
    (call.slot = .field ∨ ∀ later ∈ after, later.slot ≠ call.slot)

/-- A record satisfies what stands in one place of a filter. -/
def Meets (record : Record) (filter : Filter) : Slot → Prop
  | .level => ∀ test ∈ filter.level, test.holds record.event.level = true
  | .logger => ∀ pattern ∈ filter.logger, pattern.matchesName record.event.logger = true
  | .message => ∀ test ∈ filter.message, test.holds record.event.message = true
  | .window => ∀ window ∈ filter.window, window.contains record.timestamp = true
  | .hasError => ∀ present ∈ filter.hasError, record.event.error.isSome = present
  | .field => ∀ wanted ∈ filter.fields, record.event.fields.get? wanted.1 = some wanted.2

variable {record : Record} {filter : Filter} {calls : List Call} {call : Call}

theorem passes_iff : filter.passes record = true ↔ ∀ slot, filter.Meets record slot := by
  have apart : filter.passes record = true ↔
      ((((filter.Meets record .level ∧ filter.Meets record .logger) ∧
        filter.Meets record .message) ∧ filter.Meets record .window) ∧
        filter.Meets record .hasError) ∧ filter.Meets record .field := by
    simp only [passes, Meets, Bool.and_eq_true, Option.all_eq_true, List.all_eq_true, beq_iff_eq]
    rfl
  rw [apart]
  constructor
  · rintro ⟨⟨⟨⟨⟨level, logger⟩, message⟩, window⟩, hasError⟩, field⟩ slot
    cases slot with
    | level => exact level
    | logger => exact logger
    | message => exact message
    | window => exact window
    | hasError => exact hasError
    | field => exact field
  · intro all
    exact ⟨⟨⟨⟨⟨all .level, all .logger⟩, all .message⟩, all .window⟩, all .hasError⟩, all .field⟩

/-- A call asks for what it says in its own place, and where fields are required for what was asked
there before. -/
theorem meets_call_slot :
    (filter.call call).Meets record call.slot ↔
      call.Asks record ∧ (call.slot = .field → filter.Meets record .field) := by
  cases call with
  | message test =>
    cases test <;>
      simp [Filter.call, Call.slot, Meets, Call.Asks, MessageTest.holds, MessageTest.occursIn_iff]
  | field name text =>
    simp only [Filter.call, Call.slot, Meets, Call.Asks, List.forall_mem_append,
      List.forall_mem_singleton, forall_const, and_comm]
  | level | atLeast | logger | within | hasError =>
    simp [Filter.call, Call.slot, Meets, Call.Asks, LevelTest.holds]

/-- All other places stay as they are. -/
theorem meets_call_of_ne {slot : Slot} (other : call.slot ≠ slot) :
    (filter.call call).Meets record slot ↔ filter.Meets record slot := by
  cases call <;> cases slot <;> first | exact Iff.rfl | exact absurd rfl other

/-- Calls for different places may change places themselves. -/
theorem call_comm {first second : Call} (apart : first.slot ≠ second.slot) :
    (filter.call first).call second = (filter.call second).call first := by
  cases first <;> cases second <;> first | rfl | exact absurd rfl apart

theorem ofCalls_concat (calls : List Call) (call : Call) :
    ofCalls (calls ++ [call]) = (ofCalls calls).call call := List.foldl_append

/-! ### Calls in force -/

theorem not_inForce_nil : ¬ InForce [] call := by
  rintro ⟨before, after, whole, _⟩
  exact List.append_ne_nil_of_right_ne_nil before (List.cons_ne_nil call after) whole.symm

/-- The last call is in force, and an earlier one stays so unless the last is for its place. -/
theorem inForce_concat {last : Call} :
    InForce (calls ++ [last]) call ↔
      call = last ∨ InForce calls call ∧ (call.slot = .field ∨ last.slot ≠ call.slot) := by
  constructor
  · rintro ⟨before, after, whole, lasting⟩
    induction after using List.reverseRecOn with
    | nil =>
      exact .inl (List.append_inj_right' whole rfl |> List.cons.inj |>.1.symm)
    | append_singleton after final _ =>
      rw [← List.cons_append, ← List.append_assoc] at whole
      obtain ⟨rfl, same⟩ := List.append_inj' whole rfl
      obtain rfl := (List.cons.inj same).1
      refine .inr ⟨⟨before, after, rfl, lasting.imp_right fun later call' member => ?_⟩, ?_⟩
      · exact later call' (List.mem_append_left _ member)
      · exact lasting.imp_right fun later => later last (by simp)
  · rintro (rfl | ⟨⟨before, after, rfl, lasting⟩, stays⟩)
    · exact ⟨calls, [], rfl, .inr (List.forall_mem_nil _)⟩
    · refine ⟨before, after ++ [last], by simp, ?_⟩
      rcases lasting with field | later
      · exact .inl field
      · refine stays.imp_right fun other => ?_
        simpa [or_imp, forall_and] using ⟨later, other⟩

theorem inForce_of_field {name text : String} (member : .field name text ∈ calls) :
    InForce calls (.field name text) := by
  obtain ⟨before, after, whole⟩ := List.append_of_mem member
  exact ⟨before, after, whole, .inl rfl⟩

/-- What stands in a place was asked by the calls for it that are in force. -/
theorem meets_ofCalls {slot : Slot} :
    (ofCalls calls).Meets record slot ↔
      ∀ call, InForce calls call → call.slot = slot → call.Asks record := by
  induction calls using List.reverseRecOn with
  | nil => cases slot <;> simp [ofCalls, any, Meets, not_inForce_nil]
  | append_singleton calls last ih =>
    rw [ofCalls_concat]
    simp only [inForce_concat]
    by_cases here : last.slot = slot
    · subst here
      rw [meets_call_slot]
      constructor
      · rintro ⟨asked, before⟩ call (rfl | ⟨forced, lasting⟩) same
        · exact asked
        · rw [same] at lasting
          have field := lasting.resolve_right fun other => other rfl
          rw [field] at ih same
          exact ih.mp (before field) call forced same
      · intro all
        refine ⟨all last (.inl rfl) rfl, fun field => ?_⟩
        rw [← field, ih]
        exact fun call forced same => all call (.inr ⟨forced, .inl (same.trans field)⟩) same
    · rw [meets_call_of_ne here, ih]
      constructor
      · rintro all call (rfl | ⟨forced, _⟩) same
        · exact absurd same here
        · exact all call forced same
      · intro all call forced same
        exact all call (.inr ⟨forced, .inr (same ▸ here)⟩) same

theorem passes_ofCalls_iff :
    (ofCalls calls).passes record = true ↔ ∀ call, InForce calls call → call.Asks record := by
  simp only [passes_iff, meets_ofCalls]
  constructor
  · exact fun all call forced => all call.slot call forced rfl
  · exact fun all _ call forced _ => all call forced

/-- A new call leaves every earlier one in force unless it takes a place over. -/
theorem inForce_of_place_free {earlier : Call}
    (free : call.slot = .field ∨ ∀ other ∈ calls, other.slot ≠ call.slot)
    (forced : InForce calls earlier) : InForce (calls ++ [call]) earlier := by
  refine inForce_concat.mpr (.inr ⟨forced, ?_⟩)
  obtain ⟨before, after, rfl, _⟩ := forced
  rcases free with field | free
  · by_cases same : earlier.slot = .field
    · exact .inl same
    · exact .inr (field ▸ Ne.symm same)
  · exact .inr (Ne.symm (free earlier (by simp)))

/-- A record passes just when it satisfies every call in force: the last one for each place, and all
that require a field. So neighbours for different places may change places, a call for a place that
is free only takes records away, and no record passes when two values are required of a field. -/
theorem passes_calls_in_force (record : Record) :
    (∀ calls, (ofCalls calls).passes record = true ↔
        ∀ call, InForce calls call → call.Asks record) ∧
      (∀ before first second after, first.slot ≠ second.slot →
        (ofCalls (before ++ first :: second :: after)).passes record =
          (ofCalls (before ++ second :: first :: after)).passes record) ∧
      (∀ calls call, (call.slot = .field ∨ ∀ earlier ∈ calls, earlier.slot ≠ call.slot) →
        (ofCalls (calls ++ [call])).passes record = true → (ofCalls calls).passes record = true) ∧
      ∀ calls name first second, .field name first ∈ calls → .field name second ∈ calls →
        first ≠ second → (ofCalls calls).passes record = false := by
  refine ⟨fun calls => passes_ofCalls_iff, fun before first second after apart => ?_,
    fun calls call free => ?_, fun calls name first second one other apart => ?_⟩
  · simp only [ofCalls, List.foldl_append, List.foldl_cons, call_comm apart]
  · rw [passes_ofCalls_iff, passes_ofCalls_iff]
    exact fun all earlier forced => all earlier (inForce_of_place_free free forced)
  · rw [Bool.eq_false_iff, Ne, passes_ofCalls_iff]
    intro all
    have found : record.event.fields.get? name = some first := all _ (inForce_of_field one)
    rw [all _ (inForce_of_field other)] at found
    exact apart (Option.some.inj found).symm

/-- A level that is taken over, fields of two names, a place that was free, and two values for one
field. -/
theorem passes_calls_in_force_takenOver :
    let event := ((Event.plain .warn "app.db" "retry").withField "attempt" "2").withField "pool" "a"
    let record : Record := ⟨0, ⟨0, 0⟩, 0, event⟩
    let asked : List Call := [.level .error, .field "attempt" "2", .message (.contains "et"),
      .atLeast .info, .field "pool" "a"]
    (ofCalls (asked ++ [.logger (.descendants "app")])).passes record = true ∧
      (ofCalls asked).passes record = true ∧
      (Call.atLeast .info).Asks record ∧
      (ofCalls [.atLeast .info, .field "pool" "a", .level .error]).passes record =
        (ofCalls [.field "pool" "a", .atLeast .info, .level .error]).passes record ∧
      (ofCalls (asked ++ [.field "attempt" "1"])).passes record = false := by
  intro event record asked
  obtain ⟨closed, swap, narrow, twice⟩ := passes_calls_in_force record
  have passes : (ofCalls (asked ++ [.logger (.descendants "app")])).passes record = true := by
    decide +kernel
  have wider : (ofCalls asked).passes record = true :=
    narrow asked (.logger (.descendants "app")) (.inr (by decide)) passes
  have lasting : InForce asked (.atLeast .info) := ⟨asked.take 3, asked.drop 4, rfl, by decide⟩
  exact ⟨passes, wider, (closed asked).mp wider _ lasting,
    swap [] (.atLeast .info) (.field "pool" "a") [.level .error] (by decide),
    twice _ "attempt" "2" "1" (by simp [asked]) (by simp) (by decide)⟩

end Filter

end EventCapture
