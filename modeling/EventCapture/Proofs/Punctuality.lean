import EventCapture.Proofs.Waiting
import Mathlib.Algebra.Order.Floor.Div
import Mathlib.Tactic.IntervalCases

/-! How long waits last.

A sleep is cut down to the time that is left and then stretched to a millisecond. So all sleeps but
the last one have the same length, the longer of the interval between polls and a millisecond, and
only the last may reach beyond the deadline, by less than a millisecond. A wait ends there if nothing
else has ended it before, and when its session is closed it ends with the first poll after that.
-/

set_option autoImplicit false

namespace EventCapture

namespace WaitPolicy

/-- The length of a sleep while there is time enough. -/
def stride (policy : WaitPolicy) : Nat := max policy.pollInterval nanosPerMilli

/-- The number of sleeps after which the deadline has passed. -/
def naps (policy : WaitPolicy) : Nat := policy.timeout ⌈/⌉ policy.stride

theorem nanosPerMilli_pos : 0 < nanosPerMilli := by decide

theorem nanosPerMilli_le_stride (policy : WaitPolicy) : nanosPerMilli ≤ policy.stride :=
  Nat.le_max_right _ _

/-- Cutting a sleep down and then stretching it is the same as the other way round. -/
theorem sleepFor_eq (policy : WaitPolicy) (remaining : Nat) :
    policy.sleepFor remaining = min policy.stride (max remaining nanosPerMilli) :=
  max_min_distrib_right _ _ _

theorem naps_le_iff {policy : WaitPolicy} {k : Nat} :
    policy.naps ≤ k ↔ policy.timeout ≤ k * policy.stride := by
  have positive : 0 < policy.stride :=
    Nat.lt_of_lt_of_le nanosPerMilli_pos policy.nanosPerMilli_le_stride
  rw [naps, ceilDiv_le_iff_le_mul positive, Nat.mul_comm]

theorem lt_naps_iff {policy : WaitPolicy} {k : Nat} :
    k < policy.naps ↔ k * policy.stride < policy.timeout := by
  rw [← Nat.not_le, naps_le_iff, Nat.not_le]

/-- Both bounds of the wait are whole milliseconds. -/
def IsWhole (policy : WaitPolicy) : Prop :=
  nanosPerMilli ∣ policy.timeout ∧ nanosPerMilli ∣ policy.pollInterval

theorem isWhole_waitPolicy (settings : Settings) : settings.waitPolicy.IsWhole :=
  ⟨Nat.dvd_mul_left _ _, Nat.dvd_mul_left _ _⟩

theorem IsWhole.dvd_stride {policy : WaitPolicy} (whole : policy.IsWhole) :
    nanosPerMilli ∣ policy.stride := by
  rcases Nat.le_total policy.pollInterval nanosPerMilli with short | long
  · rw [stride, Nat.max_eq_right short]
  · rw [stride, Nat.max_eq_left long]
    exact whole.2

/-- A full sleep before the deadline leaves a millisecond at least, if all are whole. -/
theorem IsWhole.add_milli_le {policy : WaitPolicy} (whole : policy.IsWhole) {k : Nat}
    (early : k * policy.stride < policy.timeout) :
    k * policy.stride + nanosPerMilli ≤ policy.timeout := by
  obtain ⟨slept, multiple⟩ := Nat.dvd_trans whole.dvd_stride (Nat.dvd_mul_left _ k)
  obtain ⟨time, total⟩ := whole.1
  rw [multiple, total] at early ⊢
  exact Nat.mul_le_mul_left nanosPerMilli (Nat.lt_of_mul_lt_mul_left early)

end WaitPolicy

namespace Stage

variable {α : Type} {policy : WaitPolicy} {began : Nat} {stage : Stage α}
  (prompt : Prompt stage.others) (begun : stage.world.elapsed = began)

include prompt begun

/-- As long as the deadline has not passed, all sleeps were full ones. -/
theorem elapsed_of_lt_naps {k : Nat} (early : k < policy.naps) :
    (stage.after policy began k).world.elapsed = began + k * policy.stride := by
  induction k with
  | zero => rw [Nat.zero_mul]; exact begun
  | succ k ih =>
    have before := ih (Nat.lt_of_succ_lt early)
    have room := WaitPolicy.lt_naps_iff.mp early
    rw [Nat.succ_mul] at room ⊢
    -- More is left than a full sleep takes.
    have full : policy.sleepFor (policy.timeout - k * policy.stride) = policy.stride := by
      rw [policy.sleepFor_eq]
      omega
    rw [elapsed_after_succ prompt, wake, before, Nat.add_sub_cancel_left, full]
    omega

/-- The last sleep ends at the deadline, or later if it had to be stretched. -/
theorem elapsed_last {k : Nat} (last : k + 1 = policy.naps) :
    (stage.after policy began (k + 1)).world.elapsed =
      began + max policy.timeout (k * policy.stride + WaitPolicy.nanosPerMilli) := by
  have early : k < policy.naps := by omega
  have room := WaitPolicy.lt_naps_iff.mp early
  have enough := WaitPolicy.naps_le_iff.mp (Nat.le_of_eq last.symm)
  have longer := policy.nanosPerMilli_le_stride
  rw [Nat.succ_mul] at enough
  rw [elapsed_after_succ prompt, wake, elapsed_of_lt_naps prompt begun early,
    Nat.add_sub_cancel_left, policy.sleepFor_eq]
  omega

/-- After so many sleeps the deadline has passed. -/
theorem deadline_passed :
    began + policy.timeout ≤ (stage.after policy began policy.naps).world.elapsed := by
  cases count : policy.naps with
  | zero =>
    have none := WaitPolicy.naps_le_iff.mp (Nat.le_of_eq count)
    have start : (stage.after policy began 0).world.elapsed = began := begun
    omega
  | succ k =>
    rw [elapsed_last prompt begun count.symm]
    omega

/-- Until then it has passed by less than a millisecond. -/
theorem elapsed_lt_of_le_naps {k : Nat} (within : k ≤ policy.naps) :
    (stage.after policy began k).world.elapsed <
      began + policy.timeout + WaitPolicy.nanosPerMilli := by
  have milli := WaitPolicy.nanosPerMilli_pos
  obtain early | last := Nat.lt_or_eq_of_le within
  · have room := WaitPolicy.lt_naps_iff.mp early
    rw [elapsed_of_lt_naps prompt begun early]
    omega
  · cases k with
    | zero =>
      have start : (stage.after policy began 0).world.elapsed = began := begun
      omega
    | succ k =>
      have room := WaitPolicy.lt_naps_iff.mp (Nat.lt_of_lt_of_eq (Nat.lt_succ_self k) last)
      rw [elapsed_last prompt begun last]
      omega

/-- With whole milliseconds the last sleep ends at the deadline. -/
theorem elapsed_of_isWhole (whole : policy.IsWhole) :
    (stage.after policy began policy.naps).world.elapsed = began + policy.timeout := by
  cases count : policy.naps with
  | zero =>
    have none := WaitPolicy.naps_le_iff.mp (Nat.le_of_eq count)
    have start : (stage.after policy began 0).world.elapsed = began := begun
    omega
  | succ k =>
    have early := WaitPolicy.lt_naps_iff.mp (Nat.lt_of_lt_of_eq (Nat.lt_succ_self k) count.symm)
    have stretched := whole.add_milli_le early
    rw [elapsed_last prompt begun count.symm]
    omega

end Stage

/-- The session can still capture, and has captured no match. -/
def World.Lacks (w : World) (ref : SessionRef) (filter : Filter) : Prop :=
  (w.session? ref).all Session.isClosed = false ∧ w.seen? ref filter = none

instance (w : World) (ref : SessionRef) (filter : Filter) : Decidable (w.Lacks ref filter) :=
  inferInstanceAs (Decidable (_ ∧ _))

namespace Settled

variable {α : Type} {ref : SessionRef} {filter : Filter} {policy : WaitPolicy} {began : Nat}
  {stage : Stage α} {waited : Waited α} (settled : Settled ref filter policy began stage waited)

include settled

/-- A closed session ends the wait. -/
theorem sleeps_eq_of_closed {k : Nat} (within : k ≤ waited.sleeps)
    (closed : ((stage.after policy began k).world.session? ref).all Session.isClosed = true) :
    waited.sleeps = k := by
  by_contra other
  obtain ⟨nanos, hope⟩ := settled.hoped k (by omega)
  obtain ⟨_, _, polled⟩ | ⟨_, ⟨_, polled⟩ | ⟨unclosed, _, _⟩⟩ :=
    (stage.after policy began k).world.poll_cases ref filter policy began
  · rw [hope] at polled
    contradiction
  · rw [hope] at polled
    contradiction
  · exact Bool.false_ne_true (unclosed.symm.trans closed)

variable (prompt : Prompt stage.others) (begun : stage.world.elapsed = began)

include prompt begun

/-- No wait goes on after the deadline. -/
theorem sleeps_le_naps : waited.sleeps ≤ policy.naps := by
  by_contra beyond
  obtain ⟨nanos, hope⟩ := settled.hoped policy.naps (Nat.lt_of_not_le beyond)
  have late : began + policy.timeout ≤ (stage.after policy began policy.naps).world.elapsed :=
    Stage.deadline_passed prompt begun
  obtain ⟨_, _, polled⟩ | ⟨_, ⟨_, polled⟩ | ⟨_, early, _⟩⟩ :=
    (stage.after policy began policy.naps).world.poll_cases ref filter policy began
  · rw [hope] at polled
    contradiction
  · rw [hope] at polled
    contradiction
  · omega

theorem elapsed_lt : waited.elapsed < policy.timeout + WaitPolicy.nanosPerMilli := by
  have brief := Stage.elapsed_lt_of_le_naps prompt begun (settled.sleeps_le_naps prompt begun)
  have milli := WaitPolicy.nanosPerMilli_pos
  rw [settled.took]
  omega

/-- A wait that sees neither a match nor a closed session goes on to the deadline. -/
theorem sleeps_eq_naps
    (lacking : (stage.after policy began waited.sleeps).world.Lacks ref filter) :
    waited.sleeps = policy.naps := by
  refine Nat.le_antisymm (settled.sleeps_le_naps prompt begun) (Nat.le_of_not_lt fun early => ?_)
  have room := WaitPolicy.lt_naps_iff.mp early
  have passed := Stage.elapsed_of_lt_naps prompt begun early
  obtain ⟨unclosed, unseen⟩ := lacking
  obtain ⟨_, seen, _⟩ | ⟨_, closed | late, _⟩ := settled.ended
  · rw [unseen] at seen
    contradiction
  · exact Bool.false_ne_true (unclosed.symm.trans closed)
  · omega

end Settled

namespace World

/-- A wait settles if time goes on during it. -/
theorem waitFor_settled_of_forward {α : Type} {others : List (Due α)} (forward : Forward others)
    (w : World) (ref : SessionRef) (filter : Filter) (policy : WaitPolicy) :
    Settled ref filter policy w.elapsed ⟨w, others⟩ (w.waitFor ref filter policy others).2 := by
  have enough : w.elapsed + policy.timeout ≤ w.elapsed +
      (policy.timeout / WaitPolicy.nanosPerMilli + 1) * WaitPolicy.nanosPerMilli := by
    have below := Nat.lt_div_mul_add (a := policy.timeout) WaitPolicy.nanosPerMilli_pos
    rw [Nat.succ_mul]
    omega
  let stage : Stage α := ⟨w, others⟩
  have ready : Forward stage.others := forward
  exact waitRounds_settled_of_forward _ ready enough

/-- A wait during which others take no time settles. -/
theorem waitFor_settled {α : Type} {others : List (Due α)} (prompt : Prompt others) (w : World)
    (ref : SessionRef) (filter : Filter) (policy : WaitPolicy) :
    Settled ref filter policy w.elapsed ⟨w, others⟩ (w.waitFor ref filter policy others).2 :=
  waitFor_settled_of_forward prompt.forward w ref filter policy

/-- However long it may last and however often it looks, and whatever others do in its sleeps, a wait
ends with a poll that leaves nothing to hope for, less than a millisecond after the deadline. When it
sees no match and no closed session it fails for want of time, after as many sleeps as it takes to
get to the deadline, and at the very deadline if its bounds are whole milliseconds, as those of
settings are. In a closed session it does not sleep again. -/
theorem waitFor_ends_on_time {α : Type} {others : List (Due α)} (prompt : Prompt others) (w : World)
    (ref : SessionRef) (filter : Filter) (policy : WaitPolicy) :
    let stage := Stage.after policy w.elapsed ⟨w, others⟩
    let waited := (w.waitFor ref filter policy others).2
    let sleeps := policy.timeout ⌈/⌉ max policy.pollInterval WaitPolicy.nanosPerMilli
    (waited.sleeps ≤ sleeps ∧ waited.elapsed < policy.timeout + WaitPolicy.nanosPerMilli ∧
        ∀ nanos, (stage waited.sleeps).world.poll ref filter policy w.elapsed ≠
          .remaining nanos) ∧
      ((∀ k ≤ waited.sleeps, (stage k).world.Lacks ref filter) →
        waited.sleeps = sleeps ∧ policy.timeout ≤ waited.elapsed ∧
          (policy.IsWhole → waited.elapsed = policy.timeout) ∧
          waited.result = .error (.timeout filter.text
            (min (waited.elapsed / WaitPolicy.nanosPerMilli) greatestMillis)
            ((stage waited.sleeps).world.sessionView ref).report)) ∧
      (∀ k ≤ waited.sleeps, ((stage k).world.session? ref).all Session.isClosed = true →
        waited.sleeps = k ∧ waited.elapsed = (stage k).world.elapsed - w.elapsed) ∧
      ∀ settings : Settings, settings.waitPolicy.IsWhole := by
  intro stage waited sleeps
  have settled := waitFor_settled prompt w ref filter policy
  have begun : (⟨w, others⟩ : Stage α).world.elapsed = w.elapsed := rfl
  refine ⟨⟨settled.sleeps_le_naps prompt begun, settled.elapsed_lt prompt begun,
    settled.last_poll⟩, fun lacking => ?_, fun k within closed => ?_, WaitPolicy.isWhole_waitPolicy⟩
  · have last := lacking waited.sleeps (Nat.le_refl _)
    have count : waited.sleeps = policy.naps := settled.sleeps_eq_naps prompt begun last
    have took : waited.elapsed = (stage waited.sleeps).world.elapsed - w.elapsed := settled.took
    refine ⟨count, ?_, fun whole => ?_, ?_⟩
    · have late : w.elapsed + policy.timeout ≤ (stage policy.naps).world.elapsed :=
        Stage.deadline_passed prompt begun
      rw [took, count]
      exact Nat.le_sub_of_add_le' late
    · rw [took, count]
      exact Nat.sub_eq_of_eq_add' (Stage.elapsed_of_isWhole prompt begun whole)
    · obtain ⟨_, seen, _⟩ | ⟨_, _, failed⟩ := settled.ended
      · exact absurd (last.2.symm.trans seen) (by simp)
      · rw [took]
        exact failed
  · have count : waited.sleeps = k := settled.sleeps_eq_of_closed within closed
    exact ⟨count, count ▸ settled.took⟩

/-- Waits of a session that captures something else in the first sleep: one with fractions of a
millisecond, one without them, and one in whose second sleep the session is closed. -/
theorem waitFor_ends_on_time_fractions :
    let w := Client.listening.world
    let filter := Filter.ofCalls [.message (.equals "never")]
    let elsewhere := Client.listening.schedule
      [(500000, .dispatch processRouter (Event.plain .info "app.part" "other"))]
    let closing := Client.listening.schedule [(1500000, .close ⟨0⟩)]
    let fractions : WaitPolicy := ⟨2500000, 700000⟩
    let whole : WaitPolicy := ⟨3000000, 2000000⟩
    let stretched := (w.waitFor ⟨0⟩ filter fractions elsewhere).2
    let exact := (w.waitFor ⟨0⟩ filter whole elsewhere).2
    let closed := (w.waitFor ⟨0⟩ filter fractions closing).2
    (Prompt elsewhere ∧ Prompt closing ∧ whole.IsWhole) ∧
      (stretched.sleeps, stretched.elapsed) = (3, 3000000) ∧
      (exact.sleeps, exact.elapsed) = (2, 3000000) ∧
      (closed.sleeps, closed.elapsed) = (2, 2000000) := by
  intro w filter elsewhere closing fractions whole stretched exact closed
  have other : Prompt elsewhere := Client.prompt_schedule (by simp [Client.Action.isTraffic])
  have ending : Prompt closing := Client.prompt_schedule (by simp [Client.Action.isTraffic])
  have integral : whole.IsWhole := ⟨by decide, by decide⟩
  obtain ⟨⟨most, _⟩, late, _⟩ := waitFor_ends_on_time other w ⟨0⟩ filter fractions
  obtain ⟨⟨fewer, _⟩, timely, _⟩ := waitFor_ends_on_time other w ⟨0⟩ filter whole
  obtain ⟨_, _, ended, _⟩ := waitFor_ends_on_time ending w ⟨0⟩ filter fractions
  obtain ⟨slept, _⟩ := late fun k within => by
    have few : k ≤ 3 := within.trans (most.trans (by decide +kernel))
    interval_cases k <;> decide +kernel
  obtain ⟨napped, _, punctual, _⟩ := timely fun k within => by
    have few : k ≤ 2 := within.trans (fewer.trans (by decide +kernel))
    interval_cases k <;> decide +kernel
  have twice : 2 ≤ closed.sleeps := by decide +kernel
  have sealed : ((Stage.after fractions w.elapsed ⟨w, closing⟩ 2).world.session? ⟨0⟩).all
      Session.isClosed = true := by decide +kernel
  obtain ⟨stopped, took⟩ := ended 2 twice sealed
  have slow : stretched.sleeps = 3 := slept.trans (by decide +kernel)
  have late : stretched.elapsed = 3000000 := by decide +kernel
  have quick : exact.sleeps = 2 := napped.trans (by decide +kernel)
  have prompt : exact.elapsed = 3000000 := punctual integral
  have soon : closed.elapsed = 2000000 := took.trans (by decide +kernel)
  refine ⟨⟨other, ending, integral⟩, ?_, ?_, ?_⟩
  · rw [slow, late]
  · rw [quick, prompt]
  · rw [stopped, soon]

end World

end EventCapture
