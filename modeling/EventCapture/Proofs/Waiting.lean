import EventCapture.Proofs.AtRest

/-! Waits: what their polls see, and that they miss nothing that happens in time.

A wait looks, sleeps, and looks again. What others do meanwhile is done in its sleeps, so that every
change is followed by a poll before the wait can end. It gives up only at a poll that finds nothing
after the deadline, or in a closed session, which shows for good what it showed when it was closed.
-/

set_option autoImplicit false

namespace EventCapture

/-- A wait between two sleeps: the world that the next poll looks at, and what others still have to
do. -/
structure Stage (α : Type) where
  world : World
  others : List (Due α)

namespace Stage

variable {α : Type} (policy : WaitPolicy) (began : Nat)

/-- The reading of the clock at which the sleep after a poll without a match ends. -/
def wake (stage : Stage α) : Nat :=
  stage.world.elapsed + policy.sleepFor (policy.timeout - (stage.world.elapsed - began))

def next (stage : Stage α) : Stage α :=
  let (w, _, left) := World.sleepUntil began (stage.wake policy began) stage.others stage.world
  ⟨w, left⟩

/-- Where a wait stands after so many sleeps, if it goes on for so long. -/
def after (stage : Stage α) (sleeps : Nat) : Stage α := (next policy began)^[sleeps] stage

theorem after_succ (stage : Stage α) (sleeps : Nat) :
    stage.after policy began (sleeps + 1) = (stage.after policy began sleeps).next policy began :=
  Function.iterate_succ_apply' _ _ _

theorem after_next (stage : Stage α) (sleeps : Nat) :
    (stage.next policy began).after policy began sleeps = stage.after policy began (sleeps + 1) :=
  (Function.iterate_succ_apply _ _ _).symm

theorem after_add (stage : Stage α) (sleeps more : Nat) :
    (stage.after policy began sleeps).after policy began more =
      stage.after policy began (more + sleeps) :=
  (Function.iterate_add_apply _ _ _ _).symm

end Stage

/-! ### Sleeps -/

/-- What others do takes no time. -/
def Prompt {α : Type} (others : List (Due α)) : Prop :=
  ∀ due ∈ others, ∀ w, (due.act w).1.elapsed = w.elapsed

/-- What others do may take time, but does not turn the clock back. -/
def Forward {α : Type} (others : List (Due α)) : Prop :=
  ∀ due ∈ others, ∀ w, w.elapsed ≤ (due.act w).1.elapsed

theorem Prompt.forward {α : Type} {others : List (Due α)} (prompt : Prompt others) :
    Forward others :=
  fun due member w => Nat.le_of_eq (prompt due member w).symm

namespace World

variable {α : Type} {began wake : Nat}

/-- What holds whatever time it is and is kept by all that others do still holds after a sleep. -/
theorem sleepUntil_keeps {P : World → Prop} (timeless : ∀ v reading, P v → P (v.advanceTo reading))
    {others : List (Due α)} (acts : ∀ due ∈ others, ∀ v, P v → P (due.act v).1) {w : World}
    (before : P w) : P (sleepUntil began wake others w).1 := by
  induction others generalizing w with
  | nil => exact timeless w wake before
  | cons due rest ih =>
    obtain ⟨first, later⟩ := List.forall_mem_cons.mp acts
    unfold sleepUntil
    split
    · exact ih later (first _ (timeless w _ before))
    · exact ih later before

theorem sleepUntil_left (others : List (Due α)) (w : World) :
    (sleepUntil began wake others w).2.2 = others.filter (wake < began + ·.delay) := by
  induction others generalizing w with
  | nil => rfl
  | cons due rest ih =>
    unfold sleepUntil
    split
    · next early =>
      rw [List.filter_cons_of_neg (by simpa using early)]
      exact ih _
    · next late =>
      rw [List.filter_cons_of_pos (by simpa using late)]
      exact congrArg (due :: ·) (ih w)

theorem sleepUntil_elapsed {others : List (Due α)} (prompt : Prompt others) (w : World) :
    (sleepUntil began wake others w).1.elapsed = max w.elapsed wake := by
  induction others generalizing w with
  | nil => rfl
  | cons due rest ih =>
    obtain ⟨first, later⟩ := List.forall_mem_cons.mp prompt
    unfold sleepUntil
    split
    · next early =>
      refine (ih later _).trans ?_
      rw [first]
      simp only [advanceTo]
      omega
    · exact ih later w

theorem le_elapsed_sleepUntil {others : List (Due α)} (forward : Forward others) (w : World) :
    max w.elapsed wake ≤ (sleepUntil began wake others w).1.elapsed := by
  induction others generalizing w with
  | nil => exact Nat.le_refl _
  | cons due rest ih =>
    obtain ⟨first, later⟩ := List.forall_mem_cons.mp forward
    unfold sleepUntil
    split
    · next early =>
      let reached := w.advanceTo (began + due.delay)
      have onward : max w.elapsed (began + due.delay) ≤ (due.act reached).1.elapsed :=
        first reached
      refine Nat.le_trans ?_ (ih later (due.act reached).1)
      omega
    · exact ih later w

/-! ### Polls -/

/-- The first record of a session, in order of arrival, that passes a filter. -/
def seen? (w : World) (ref : SessionRef) (filter : Filter) : Option Record :=
  (w.sessionView ref).firstMatching? filter

/-- What a poll of a wait finds in a world. -/
theorem poll_cases (w : World) (ref : SessionRef) (filter : Filter) (policy : WaitPolicy)
    (began : Nat) :
    (∃ record, w.seen? ref filter = some record ∧
        w.poll ref filter policy began = .found record) ∨
      w.seen? ref filter = none ∧
        ((((w.session? ref).all Session.isClosed = true ∨ policy.timeout ≤ w.elapsed - began) ∧
            w.poll ref filter policy began = .over) ∨
          ((w.session? ref).all Session.isClosed = false ∧ w.elapsed - began < policy.timeout ∧
            w.poll ref filter policy began =
              .remaining (policy.timeout - (w.elapsed - began)))) := by
  have looked : w.seen? ref filter = (w.events ref).records.find? filter.passes := rfl
  rw [looked, poll]
  cases (w.events ref).records.find? filter.passes with
  | some record => exact .inl ⟨record, rfl, rfl⟩
  | none =>
    refine .inr ⟨rfl, ?_⟩
    cases (w.session? ref).all Session.isClosed with
    | true => exact .inl ⟨.inl rfl, rfl⟩
    | false =>
      by_cases late : policy.timeout ≤ w.elapsed - began
      · exact .inl ⟨.inr late, by simp [late]⟩
      · exact .inr ⟨rfl, by omega, by simp [late]⟩

end World

/-- How a wait ends at its last poll: with a match, or in vain when nothing more can come in time. -/
def EndsAt (last : World) (ref : SessionRef) (filter : Filter) (policy : WaitPolicy) (began : Nat)
    (result : Except Failure Record) : Prop :=
  (∃ record, last.seen? ref filter = some record ∧ result = .ok record) ∨
    last.seen? ref filter = none ∧
      ((last.session? ref).all Session.isClosed = true ∨ policy.timeout ≤ last.elapsed - began) ∧
        result = .error (last.waitExpired ref filter began).2

/-- A wait that goes on from a stage sleeps after every poll that leaves hope, and ends with the
first other one. -/
structure Settled {α : Type} (ref : SessionRef) (filter : Filter) (policy : WaitPolicy)
    (began : Nat) (stage : Stage α) (waited : Waited α) : Prop where
  hoped : ∀ k < waited.sleeps, ∃ nanos,
    (stage.after policy began k).world.poll ref filter policy began = .remaining nanos
  ended : EndsAt (stage.after policy began waited.sleeps).world ref filter policy began
    waited.result
  took : waited.elapsed = (stage.after policy began waited.sleeps).world.elapsed - began
  left : waited.left = (stage.after policy began waited.sleeps).others

section

variable {α : Type} {ref : SessionRef} {filter : Filter} {policy : WaitPolicy} {began : Nat}

theorem Stage.others_next (policy : WaitPolicy) (began : Nat) (stage : Stage α) :
    (stage.next policy began).others =
      stage.others.filter (stage.wake policy began < began + ·.delay) :=
  World.sleepUntil_left stage.others stage.world

theorem Stage.prompt_next {stage : Stage α} (prompt : Prompt stage.others) :
    Prompt (stage.next policy began).others := by
  intro due member
  rw [Stage.others_next] at member
  exact prompt due (List.mem_filter.mp member).1

theorem Stage.forward_next {stage : Stage α} (forward : Forward stage.others) :
    Forward (stage.next policy began).others := by
  intro due member
  rw [Stage.others_next] at member
  exact forward due (List.mem_filter.mp member).1

theorem Stage.wake_le_elapsed_next {stage : Stage α} (forward : Forward stage.others) :
    stage.wake policy began ≤ (stage.next policy began).world.elapsed :=
  Nat.le_trans (Nat.le_max_right _ _) (World.le_elapsed_sleepUntil forward stage.world)

theorem Stage.elapsed_next (policy : WaitPolicy) (began : Nat) {stage : Stage α}
    (prompt : Prompt stage.others) :
    (stage.next policy began).world.elapsed = stage.wake policy began :=
  (World.sleepUntil_elapsed prompt stage.world).trans
    (Nat.max_eq_right (Nat.le_add_right _ _))

/-- What holds whatever time it is and is kept by all that others do holds at all stages that come
after one at which it holds. -/
theorem Stage.after_keeps {P : World → Prop}
    (timeless : ∀ v reading, P v → P (v.advanceTo reading)) (policy : WaitPolicy) (began : Nat)
    {stage : Stage α} (acts : ∀ due ∈ stage.others, ∀ v, P v → P (due.act v).1)
    (before : P stage.world) (k : Nat) : P (stage.after policy began k).world := by
  induction k generalizing stage with
  | zero => exact before
  | succ k ih =>
    rw [← Stage.after_next]
    refine ih (fun due member => ?_) (World.sleepUntil_keeps timeless acts before)
    rw [Stage.others_next] at member
    exact acts due (List.mem_filter.mp member).1

/-- Every sleep takes a millisecond or more. -/
theorem Stage.le_wake (policy : WaitPolicy) (began : Nat) (stage : Stage α) :
    stage.world.elapsed + WaitPolicy.nanosPerMilli ≤ stage.wake policy began :=
  Nat.add_le_add_left (Nat.le_max_right _ _) _

theorem settled_at_once {stage : Stage α} {result : Except Failure Record}
    (ended : EndsAt stage.world ref filter policy began result) :
    Settled ref filter policy began stage
      ⟨result, stage.world.elapsed - began, 0, [], stage.others⟩ :=
  ⟨fun _ below => absurd below (Nat.not_lt_zero _), ended, rfl, rfl⟩

/-- A report of the failure takes no time. -/
theorem settled_in_vain {stage : Stage α}
    (unseen : stage.world.seen? ref filter = none)
    (spent : (stage.world.session? ref).all Session.isClosed = true ∨
      policy.timeout ≤ stage.world.elapsed - began) :
    let (w, failure) := stage.world.waitExpired ref filter began
    Settled ref filter policy began stage
      ⟨.error failure, w.elapsed - began, 0, [], stage.others⟩ := by
  have same : (stage.world.waitExpired ref filter began).1.elapsed = stage.world.elapsed :=
    (World.atOnce_trace _ _).elapsed
  dsimp only
  rw [same]
  exact settled_at_once (.inr ⟨unseen, spent, rfl⟩)

/-- However many rounds a wait has, it fails with the report of the last stage that it reaches. -/
theorem waitRounds_expired (rounds : Nat) (stage : Stage α) {failure : Failure} :
    let waited := (World.waitRounds ref filter policy began rounds stage.world stage.others).2
    waited.result = .error failure →
      failure =
        ((stage.after policy began waited.sleeps).world.waitExpired ref filter began).2 := by
  induction rounds generalizing stage with
  | zero => exact fun failed => (Except.error.inj failed).symm
  | succ rounds ih =>
    rw [World.waitRounds]
    obtain ⟨record, _, polled⟩ | ⟨_, ⟨_, polled⟩ | ⟨_, _, polled⟩⟩ :=
      stage.world.poll_cases ref filter policy began
    · rw [polled]
      exact nofun
    · rw [polled]
      exact fun failed => (Except.error.inj failed).symm
    · rw [polled]
      have later := ih (stage.next policy began)
      simp only [Stage.after_next] at later
      exact later

/-- A wait that has rounds enough for the time that is left settles. -/
theorem waitRounds_settled_of_forward (rounds : Nat) {stage : Stage α}
    (forward : Forward stage.others)
    (enough : began + policy.timeout ≤
      stage.world.elapsed + rounds * WaitPolicy.nanosPerMilli) :
    Settled ref filter policy began stage
      (World.waitRounds ref filter policy began (rounds + 1) stage.world stage.others).2 := by
  induction rounds generalizing stage with
  | zero =>
    unfold World.waitRounds
    obtain ⟨record, seen, polled⟩ | ⟨unseen, ⟨spent, polled⟩ | ⟨_, early, _⟩⟩ :=
      stage.world.poll_cases ref filter policy began
    · rw [polled]
      exact settled_at_once (.inl ⟨record, seen, rfl⟩)
    · rw [polled]
      exact settled_in_vain unseen spent
    · omega
  | succ rounds ih =>
    rw [World.waitRounds]
    obtain ⟨record, seen, polled⟩ | ⟨unseen, ⟨spent, polled⟩ | ⟨_, early, polled⟩⟩ :=
      stage.world.poll_cases ref filter policy began
    · rw [polled]
      exact settled_at_once (.inl ⟨record, seen, rfl⟩)
    · rw [polled]
      exact settled_in_vain unseen spent
    · rw [polled]
      have longer := stage.le_wake policy began
      have slept : stage.wake policy began ≤ (stage.next policy began).world.elapsed :=
        Stage.wake_le_elapsed_next forward
      have later : Settled ref filter policy began (stage.next policy began) _ :=
        ih (Stage.forward_next forward) (by rw [Nat.succ_mul] at enough; omega)
      obtain ⟨hoped, ended, took, left⟩ := later
      simp only [Stage.after_next] at hoped ended took left
      refine ⟨fun k below => ?_, ended, took, left⟩
      cases k with
      | zero => exact ⟨_, polled⟩
      | succ k => exact hoped k (Nat.lt_of_succ_lt_succ below)

theorem waitRounds_settled (rounds : Nat) {stage : Stage α} (prompt : Prompt stage.others)
    (enough : began + policy.timeout ≤
      stage.world.elapsed + rounds * WaitPolicy.nanosPerMilli) :
    Settled ref filter policy began stage
      (World.waitRounds ref filter policy began (rounds + 1) stage.world stage.others).2 :=
  waitRounds_settled_of_forward rounds prompt.forward enough

/-- What a wait tells is what its polls could see: each looked at the world of a stage. -/
structure TrueToPolls {α : Type} (ref : SessionRef) (filter : Filter) (policy : WaitPolicy)
    (began : Nat) (stage : Nat → Stage α) (waited : Waited α) : Prop where
  /-- A wait sleeps after every poll that leaves hope, and after no other. -/
  sleeps : ∀ k ≤ waited.sleeps, k < waited.sleeps ↔
    ∃ nanos, (stage k).world.poll ref filter policy began = .remaining nanos
  took : waited.elapsed = (stage waited.sleeps).world.elapsed - began
  left : waited.left = (stage waited.sleeps).others
  /-- It gives the first match of the earliest poll that saw one. -/
  ok_iff : ∀ record, waited.result = .ok record ↔
    ∃ k ≤ waited.sleeps, (stage k).world.seen? ref filter = some record ∧
      ∀ j < k, (stage j).world.seen? ref filter = none
  /-- It fails, and always for want of time, if no poll saw a match. -/
  timeout_iff : (∃ failure, waited.result = .error failure ∧ failure.kind = .timeout) ↔
    ∀ k ≤ waited.sleeps, (stage k).world.seen? ref filter = none
  passes : ∀ record, waited.result = .ok record → filter.passes record = true

namespace Settled

variable {stage : Stage α} {waited : Waited α}
  (settled : Settled ref filter policy began stage waited)

include settled

/-- A poll that is followed by a sleep saw no match. -/
theorem unseen {k : Nat} (below : k < waited.sleeps) :
    (stage.after policy began k).world.seen? ref filter = none := by
  obtain ⟨nanos, hope⟩ := settled.hoped k below
  obtain ⟨_, _, polled⟩ | ⟨none, _⟩ :=
    (stage.after policy began k).world.poll_cases ref filter policy began
  · rw [hope] at polled
    contradiction
  · exact none

/-- The last poll leaves nothing to hope for. -/
theorem last_poll (nanos : Nat) :
    (stage.after policy began waited.sleeps).world.poll ref filter policy began ≠
      .remaining nanos := by
  intro hope
  obtain ⟨_, _, polled⟩ | ⟨unseen, ⟨_, polled⟩ | ⟨unclosed, early, _⟩⟩ :=
    (stage.after policy began waited.sleeps).world.poll_cases ref filter policy began
  · rw [hope] at polled
    contradiction
  · rw [hope] at polled
    contradiction
  · obtain ⟨_, seen, _⟩ | ⟨_, closed | late, _⟩ := settled.ended
    · rw [unseen] at seen
      contradiction
    · exact absurd (unclosed.symm.trans closed) Bool.false_ne_true
    · exact Nat.not_le_of_lt early late

/-- The result is a match just if the last poll saw it. -/
theorem ok_iff_seen (record : Record) :
    waited.result = .ok record ↔
      (stage.after policy began waited.sleeps).world.seen? ref filter = some record := by
  obtain ⟨found, seen, result⟩ | ⟨none, _, result⟩ := settled.ended <;> simp [*]

/-- The result is a failure for want of time just if the last poll saw nothing. -/
theorem timeout_iff_unseen :
    (∃ failure, waited.result = .error failure ∧ failure.kind = .timeout) ↔
      (stage.after policy began waited.sleeps).world.seen? ref filter = none := by
  obtain ⟨found, seen, result⟩ | ⟨none, _, result⟩ := settled.ended
  · simp [seen, result]
  · simp only [none, result, iff_true]
    exact ⟨_, rfl, rfl⟩

theorem trueToPolls :
    TrueToPolls ref filter policy began (stage.after policy began) waited where
  sleeps := by
    refine fun k within => ⟨settled.hoped k, fun ⟨nanos, hope⟩ => ?_⟩
    obtain below | rfl := Nat.lt_or_eq_of_le within
    · exact below
    · exact absurd hope (settled.last_poll nanos)
  took := settled.took
  left := settled.left
  ok_iff := by
    intro record
    rw [settled.ok_iff_seen]
    constructor
    · exact fun seen => ⟨waited.sleeps, Nat.le_refl _, seen, fun _ => settled.unseen⟩
    · rintro ⟨k, within, seen, _⟩
      obtain below | rfl := Nat.lt_or_eq_of_le within
      · rw [settled.unseen below] at seen
        contradiction
      · exact seen
  timeout_iff := by
    rw [settled.timeout_iff_unseen]
    constructor
    · intro none k within
      obtain below | rfl := Nat.lt_or_eq_of_le within
      · exact settled.unseen below
      · exact none
    · exact fun never => never _ (Nat.le_refl _)
  passes := fun record found => List.find?_some ((settled.ok_iff_seen record).mp found)

end Settled

/-! ### What is done in time -/

namespace Stage

variable {stage : Stage α}

theorem prompt_after (prompt : Prompt stage.others) (k : Nat) :
    Prompt (stage.after policy began k).others := by
  induction k with
  | zero => exact prompt
  | succ k ih =>
    rw [after_succ]
    exact prompt_next ih

theorem elapsed_after_succ (prompt : Prompt stage.others) (k : Nat) :
    (stage.after policy began (k + 1)).world.elapsed =
      (stage.after policy began k).wake policy began := by
  rw [after_succ]
  exact elapsed_next policy began (prompt_after prompt k)

theorem le_elapsed_after (policy : WaitPolicy) (began : Nat) (prompt : Prompt stage.others)
    (k : Nat) :
    stage.world.elapsed + k * WaitPolicy.nanosPerMilli ≤
      (stage.after policy began k).world.elapsed := by
  induction k with
  | zero => exact Nat.le_of_eq (by rw [Nat.zero_mul]; rfl)
  | succ k ih =>
    have longer := (stage.after policy began k).le_wake policy began
    rw [elapsed_after_succ prompt, Nat.succ_mul]
    omega

/-- A sleep leaves what is due after its end. -/
theorem mem_others_succ (prompt : Prompt stage.others) {k : Nat} {due : Due α} :
    due ∈ (stage.after policy began (k + 1)).others ↔
      due ∈ (stage.after policy began k).others ∧
        (stage.after policy began (k + 1)).world.elapsed < began + due.delay := by
  rw [elapsed_after_succ prompt, after_succ, others_next, List.mem_filter, decide_eq_true_iff]

theorem mem_others_of_le (prompt : Prompt stage.others) {j k : Nat} (order : j ≤ k) {due : Due α}
    (left : due ∈ (stage.after policy began k).others) :
    due ∈ (stage.after policy began j).others := by
  induction order with
  | refl => exact left
  | step _ ih => exact ih ((mem_others_succ prompt).mp left).1

/-- Whatever is due is done in some sleep, if the wait goes on for so long. -/
theorem exists_done (prompt : Prompt stage.others) {due : Due α} (planned : due ∈ stage.others) :
    ∃ k, due ∈ (stage.after policy began k).others ∧
      due ∉ (stage.after policy began (k + 1)).others := by
  by_contra never
  have always (k : Nat) : due ∈ (stage.after policy began k).others := by
    induction k with
    | zero => exact planned
    | succ k ih =>
      by_contra done
      exact never ⟨k, ih, done⟩
  -- After so many milliseconds everything was due.
  let sleeps := began + due.delay
  have late := le_elapsed_after policy began prompt (sleeps + 1)
  have early := ((mem_others_succ prompt).mp (always (sleeps + 1))).2
  have longer : sleeps + 1 ≤ (sleeps + 1) * WaitPolicy.nanosPerMilli :=
    Nat.le_mul_of_pos_right _ (by decide)
  omega

/-- What is due by the deadline is not left when the deadline has passed. -/
theorem not_late_of_mem (prompt : Prompt stage.others) (begun : stage.world.elapsed = began)
    (lasting : 0 < policy.timeout) {due : Due α} (inTime : due.delay ≤ policy.timeout) {k : Nat}
    (left : due ∈ (stage.after policy began k).others) :
    (stage.after policy began k).world.elapsed - began < policy.timeout := by
  cases k with
  | zero =>
    have start : (stage.after policy began 0).world.elapsed = began := begun
    omega
  | succ k =>
    have early := ((mem_others_succ prompt).mp left).2
    omega

end Stage

/-- Whatever a poll sees after the sleep in which something was done in time, the wait has not given
up before, if a closed session shows no more later. -/
theorem Settled.ok_of_seen {stage : Stage α} {waited : Waited α}
    (settled : Settled ref filter policy began stage waited) (prompt : Prompt stage.others)
    (begun : stage.world.elapsed = began) (lasting : 0 < policy.timeout) {due : Due α}
    (inTime : due.delay ≤ policy.timeout) {k : Nat}
    (before : due ∈ (stage.after policy began k).others)
    (final : ∀ j ≤ k, ((stage.after policy began j).world.session? ref).all Session.isClosed = true →
      (stage.after policy began (k + 1)).world.events ref =
        (stage.after policy began j).world.events ref)
    {record : Record}
    (shown : record ∈ ((stage.after policy began (k + 1)).world.events ref).records)
    (passes : filter.passes record = true) :
    waited.sleeps ≤ k + 1 ∧ ∃ found, waited.result = .ok found := by
  have seen {w : World}
      (same : (stage.after policy began (k + 1)).world.events ref = w.events ref) :
      w.seen? ref filter ≠ none := by
    intro unseen
    rw [same] at shown
    exact List.find?_eq_none.mp unseen record shown passes
  have soon : waited.sleeps ≤ k + 1 := by
    by_contra later
    exact seen rfl (settled.unseen (Nat.lt_of_not_le later))
  refine ⟨soon, ?_⟩
  obtain ⟨found, _, result⟩ | ⟨unseen, spent, _⟩ := settled.ended
  · exact ⟨found, result⟩
  · -- A wait in vain would have ended before that sleep, though there was still time.
    exfalso
    obtain earlier | last := Nat.lt_or_eq_of_le soon
    · have order := Nat.le_of_lt_succ earlier
      rcases spent with closed | late
      · exact seen (final _ order closed) unseen
      · have left := Stage.mem_others_of_le prompt order before
        have early := Stage.not_late_of_mem prompt begun lasting inTime left
        omega
    · exact seen (congrArg (fun n => (stage.after policy began n).world.events ref) last.symm) unseen

end

namespace Client

/-! ### What a client does in the sleeps -/

mutual

/-- Whether an action takes no time and leaves the sinks and the handles of the client alone, as
emissions, drains and closings do. -/
def Action.isTraffic : Action → Bool
  | .dispatchWith _ _ nested | .log _ _ nested | .within _ nested => areTraffic nested
  | .advance _ | .newSink | .attach _ _ _ _ | .detach _ | .waitFor _ _ _ => false
  | _ => true

def areTraffic : List Action → Bool
  | [] => true
  | action :: rest => action.isTraffic && areTraffic rest

end

/-- The client holds in the second state what it held in the first. -/
structure HeldSame (before after : Course) : Prop where
  sinks : after.sinks = before.sinks
  handles : after.handles = before.handles

/-- One state comes from another at once, and the client holds what it held. -/
structure Calm (before after : Course) : Prop extends HeldSame before after where
  elapsed : after.world.elapsed = before.world.elapsed

theorem Calm.refl (c : Course) : Calm c c := ⟨⟨rfl, rfl⟩, rfl⟩

theorem Calm.trans {a b c : Course} (first : Calm a b) (second : Calm b c) : Calm a c :=
  ⟨⟨second.sinks.trans first.sinks, second.handles.trans first.handles⟩,
    second.elapsed.trans first.elapsed⟩

theorem calm_emit (c since : Course) (router : RouterId) (event : Event) :
    Calm c (c.emit since router event) :=
  ⟨⟨rfl, rfl⟩, (World.atOnce_recordAll c.world _ event).elapsed⟩

theorem heldSame_onSink (c : Course) (place : Nat) (change : World → SinkId → World) :
    HeldSame c (c.onSink place change) := by
  unfold Course.onSink
  cases c.sinks[place]? <;> exact ⟨rfl, rfl⟩

theorem heldSame_opening (c : Course) {action : Action} {opening : Opening}
    (asked : action.opening? = some opening) : HeldSame c (action.run c) := by
  rw [run_opening asked, Course.openAs]
  split
  · exact ⟨rfl, rfl⟩
  · split
    · exact ⟨rfl, rfl⟩
    · split <;> exact ⟨rfl, rfl⟩

theorem heldSame_drain (c : Course) (ref : SessionRef) : HeldSame c (c.drain ref) := by
  unfold Course.drain
  cases c.world.session? ref <;> exact ⟨rfl, rfl⟩

theorem heldSame_close (c : Course) (ref : SessionRef) : HeldSame c (c.close ref) := by
  obtain same | ⟨_, _, _, _, ended⟩ := close_cases c ref
  · exact same.symm ▸ ⟨rfl, rfl⟩
  · exact ended.symm ▸ ⟨rfl, rfl⟩

theorem Action.heldSame_of_ready (c : Course) {action : Action} (ready : action.isReady = true)
    (traffic : action.isTraffic = true) : HeldSame c (action.run c) := by
  cases action with
  | advance | newSink | attach | detach | waitFor => simp [Action.isTraffic] at traffic
  | within => contradiction
  | newRouter | dispatch | trace => exact ⟨rfl, rfl⟩
  | dispatchWith router event nested =>
    obtain rfl := List.isEmpty_iff.mp ready
    exact run_dispatchWith_ready router event c ▸ ⟨rfl, rfl⟩
  | log router entry nested =>
    obtain rfl := List.isEmpty_iff.mp ready
    exact run_log_ready router entry c ▸ ⟨rfl, rfl⟩
  | record | drainSink | freeze =>
    rw [Action.run]
    exact heldSame_onSink c _ _
  | openSession | openWithSettings => exact heldSame_opening c rfl
  | drain session => exact heldSame_drain c session
  | close session => exact heldSame_close c session
  | drop session => exact run_drop session c ▸ heldSame_close c session

theorem Action.calm_of_ready (c : Course) {action : Action} (ready : action.isReady = true)
    (traffic : action.isTraffic = true) : Calm c (action.run c) := by
  have held := action.heldSame_of_ready c ready traffic
  have brief : action.waits c.world = false := by
    cases action <;> first | rfl | simp [Action.isTraffic] at traffic
  have quick : action.span = 0 := by
    cases action <;> first | rfl | simp [Action.isTraffic] at traffic
  obtain ⟨nanos, prompt, straight⟩ := action.run_straight c ready
  have elapsed : (action.run c).world.elapsed = c.world.elapsed + nanos := straight.pace.elapsed
  rw [prompt brief, quick] at elapsed
  exact ⟨held, elapsed⟩

mutual

theorem Action.run_calm (c : Course) :
    (action : Action) → action.isTraffic = true → Calm c (action.run c)
  | .dispatchWith router event nested, traffic => by
    rw [Action.isTraffic] at traffic
    rw [run_dispatchWith]
    split
    · exact calm_emit c c router event
    · exact (runAll_calm c nested traffic).trans (calm_emit _ c router event)
  | .log router entry nested, traffic => by
    rw [Action.isTraffic] at traffic
    rw [run_log]
    split
    · exact calm_emit c c router entry.captured
    · exact (runAll_calm c nested traffic).trans (calm_emit _ c router entry.captured)
  | .within router nested, traffic => by
    rw [Action.isTraffic] at traffic
    rw [run_within]
    have inner := runAll_calm (c.moved { c.world with subscriber := router }) nested traffic
    exact ⟨⟨inner.sinks, inner.handles⟩, inner.elapsed⟩
  | .advance _, traffic | .newSink, traffic | .attach _ _ _ _, traffic | .detach _, traffic
  | .waitFor _ _ _, traffic => absurd traffic (by simp [Action.isTraffic])
  | .newRouter _, traffic | .dispatch _ _, traffic | .trace _, traffic | .record _ _, traffic
  | .drainSink _, traffic | .freeze _, traffic | .openSession _ _ _ _, traffic
  | .openWithSettings _ _ _, traffic | .drain _, traffic | .close _, traffic | .drop _, traffic =>
    Action.calm_of_ready c rfl traffic

theorem runAll_calm (c : Course) :
    (actions : List Action) → areTraffic actions = true → Calm c (runAll actions c)
  | [], _ => .refl c
  | action :: rest, traffic => by
    rw [areTraffic, Bool.and_eq_true] at traffic
    exact (action.run_calm c traffic.1).trans (runAll_calm (action.run c) rest traffic.2)

end

/-! ### Waits of a run -/

/-- What a client does in a sleep of a wait that begins in this state, so many nanoseconds later. -/
def Course.due (c : Course) (doing : Nat × Action) : Due Unit :=
  ⟨doing.1, fun w => ((doing.2.run (c.moved w)).world, ())⟩

def Course.schedule (c : Course) (doings : List (Nat × Action)) : List (Due Unit) :=
  doings.map c.due

variable {c : Course}

theorem prompt_schedule {doings : List (Nat × Action)}
    (traffic : ∀ doing ∈ doings, doing.2.isTraffic = true) : Prompt (c.schedule doings) := by
  intro due member w
  obtain ⟨doing, planned, rfl⟩ := List.mem_map.mp member
  exact (doing.2.run_calm (c.moved w) (traffic doing planned)).elapsed

theorem Lawful.traffic {w : World} (lawful : Lawful (c.moved w)) {action : Action}
    (traffic : action.isTraffic = true) : Lawful (c.moved (action.run (c.moved w)).world) :=
  have calm := action.run_calm (c.moved w) traffic
  have after := (action.run_passage (c.moved w)).lawful lawful
  after.steady calm.sinks.symm calm.handles.symm (.refl _)

/-- What holds in a lawful state whatever time it is, and at all later ones, holds at all stages of
a wait that come after. -/
theorem after_keeps {P : World → Prop} (timeless : ∀ v reading, P v → P (v.advanceTo reading))
    (kept : ∀ {a b : Course}, Passage a b → Lawful a → P a.world → P b.world)
    {doings : List (Nat × Action)} (traffic : ∀ doing ∈ doings, doing.2.isTraffic = true)
    (policy : WaitPolicy) (began : Nat) (stage : Stage Unit)
    (others : ∀ due ∈ stage.others, due ∈ c.schedule doings)
    (before : Lawful (c.moved stage.world) ∧ P stage.world) (k : Nat) :
    Lawful (c.moved (stage.after policy began k).world) ∧
      P (stage.after policy began k).world := by
  refine Stage.after_keeps (P := fun v => Lawful (c.moved v) ∧ P v) ?_ policy began ?_ before k
  · intro v reading ⟨lawful, holds⟩
    exact ⟨lawful.steady rfl rfl ⟨rfl, rfl, fun _ => rfl⟩, timeless v reading holds⟩
  · intro due member v ⟨lawful, holds⟩
    obtain ⟨doing, planned, rfl⟩ := List.mem_map.mp (others due member)
    have passage := doing.2.run_passage (c.moved v)
    exact ⟨lawful.traffic (traffic doing planned), kept passage lawful holds⟩

/-- Where a wait that begins in this state stands after so many sleeps. -/
def Course.stage (c : Course) (policy : WaitPolicy) (doings : List (Nat × Action)) (sleeps : Nat) :
    Stage Unit :=
  Stage.after policy c.world.elapsed ⟨c.world, c.schedule doings⟩ sleeps

section

variable {doings : List (Nat × Action)} (traffic : ∀ doing ∈ doings, doing.2.isTraffic = true)
  (lawful : Lawful c) {ref : SessionRef} {session : Session}
  (found : c.world.session? ref = some session) (policy : WaitPolicy)

include traffic lawful found

theorem session?_stage (k : Nat) :
    Lawful (c.moved (c.stage policy doings k).world) ∧
      ∃ there, (c.stage policy doings k).world.session? ref = some there :=
  after_keeps (P := fun v => ∃ there, v.session? ref = some there) (fun _ _ => id)
    (fun passage _ ⟨there, before⟩ =>
      have ⟨_, kept, _⟩ := passage.leads.sessions ref there before
      ⟨_, kept⟩)
    traffic policy c.world.elapsed ⟨c.world, c.schedule doings⟩ (fun _ => id)
    ⟨lawful.steady rfl rfl (.refl _), session, found⟩ k

/-- What a session shows at a stage at which it is closed is what it shows at all later stages. -/
theorem events_stage_of_closed {j k : Nat} (order : j ≤ k)
    (closed : ((c.stage policy doings j).world.session? ref).all Session.isClosed = true) :
    (c.stage policy doings k).world.events ref = (c.stage policy doings j).world.events ref := by
  obtain ⟨stillLawful, there, still⟩ := session?_stage traffic lawful found policy j
  rw [still] at closed
  obtain ⟨sink, resting⟩ := stillLawful.resting still closed
  have planned (due : Due Unit) (left : due ∈ (c.stage policy doings j).others) :
      due ∈ c.schedule doings :=
    Stage.mem_others_of_le (prompt_schedule traffic) (Nat.zero_le j) left
  -- The sleeps that follow leave a closed session at rest.
  obtain ⟨_, rests⟩ :=
    after_keeps (P := fun v => World.Resting v ref there sink)
      (fun _ _ rests => ⟨rests.found, rests.closed, rests.held, rests.frozen⟩)
      (fun passage lawful rests => passage.later.resting lawful rests)
      traffic policy c.world.elapsed (c.stage policy doings j) planned ⟨stillLawful, resting⟩
      (k - j)
  rw [Course.stage, Stage.after_add, Nat.sub_add_cancel order] at rests
  exact rests.events.trans resting.events.symm

end

/-- Wherever in a run a wait begins, and whatever is emitted, drained and closed in its sleeps, it is
true to its polls. It misses nothing that is done by the deadline, at the very deadline or just
before a closing: when a match is still there after the sleep in which that was done, the wait ends
with a match, at that poll or before. Only a wait without any time has no sleep to do it in. -/
theorem waitFor_sees {origin : Instant} {earlier : List Action} {c : Course}
    (reached : c ∈ trail earlier (Course.start origin)) {ref : SessionRef} {session : Session}
    (found : c.world.session? ref = some session) (filter : Filter) (policy : WaitPolicy)
    {doings : List (Nat × Action)} (traffic : ∀ doing ∈ doings, doing.2.isTraffic = true) :
    let stage := c.stage policy doings
    let waited := (c.world.waitFor ref filter policy (c.schedule doings)).2
    TrueToPolls ref filter policy c.world.elapsed stage waited ∧
      (0 < policy.timeout → ∀ doing ∈ doings, doing.1 ≤ policy.timeout →
        ∃ k, c.due doing ∈ (stage k).others ∧ c.due doing ∉ (stage (k + 1)).others ∧
          ∀ record ∈ ((stage (k + 1)).world.events ref).records, filter.passes record = true →
            waited.sleeps ≤ k + 1 ∧ ∃ found, waited.result = .ok found) := by
  intro stage waited
  have lawful := lawful_of_mem_trail reached
  have prompt : Prompt (c.schedule doings) := prompt_schedule traffic
  have enough : c.world.elapsed + policy.timeout ≤ c.world.elapsed +
      (policy.timeout / WaitPolicy.nanosPerMilli + 1) * WaitPolicy.nanosPerMilli := by
    have below := Nat.lt_div_mul_add (a := policy.timeout) (b := WaitPolicy.nanosPerMilli) (by decide)
    rw [Nat.succ_mul]
    omega
  have settled : Settled ref filter policy c.world.elapsed ⟨c.world, c.schedule doings⟩ waited :=
    waitRounds_settled _ prompt enough
  refine ⟨settled.trueToPolls, fun lasting doing planned inTime => ?_⟩
  obtain ⟨k, before, after⟩ :
      ∃ k, c.due doing ∈ (stage k).others ∧ c.due doing ∉ (stage (k + 1)).others :=
    Stage.exists_done prompt (List.mem_map_of_mem planned)
  refine ⟨k, before, after, fun record shown passes => ?_⟩
  refine settled.ok_of_seen prompt rfl lasting inTime before (fun j order closed => ?_) shown passes
  exact events_stage_of_closed traffic lawful found policy (Nat.le_succ_of_le order) closed

/-- Where a session has been opened on the router of the process. -/
def listening : Course :=
  (Action.openSession ⟨1⟩ World.processRouter ["app.*"] .info).run (Course.start ⟨0, 0⟩)

/-- An event at the deadline of a wait of two milliseconds, after another one that is drained, and
before the session is closed. -/
def lastMoment : List (Nat × Action) :=
  [(500000, .dispatch World.processRouter (Event.plain .info "app.part" "ready")),
    (700000, .drain ⟨0⟩),
    (2000000, .dispatch World.processRouter (Event.plain .warn "app.part" "ready")),
    (2000000, .close ⟨0⟩)]

theorem waitFor_sees_lastMoment :
    let policy : WaitPolicy := ⟨2000000, 1000000⟩
    let filter := Filter.ofCalls [.message (.equals "ready")]
    let stage := listening.stage policy lastMoment
    let waited := (listening.world.waitFor ⟨0⟩ filter policy (listening.schedule lastMoment)).2
    TrueToPolls ⟨0⟩ filter policy 0 stage waited ∧
      (∃ k, ∀ record ∈ ((stage (k + 1)).world.events ⟨0⟩).records, filter.passes record = true →
        waited.sleeps ≤ k + 1 ∧ ∃ found, waited.result = .ok found) ∧
      ((stage 2).world.session? ⟨0⟩).all Session.isClosed = true ∧
      (waited.sleeps, waited.result.toOption.map Record.timeless) =
        (2, some (1, Event.plain .warn "app.part" "ready")) := by
  intro policy filter stage waited
  let session : Session :=
    ⟨⟨1⟩, World.processRouter, ⟨0⟩, ⟨[.descendants "app"], by decide⟩, .info, Report.usualLimit, 0,
      .capturing ⟨1⟩⟩
  have reached : listening ∈
      trail [.openSession ⟨1⟩ World.processRouter ["app.*"] .info] (Course.start ⟨0, 0⟩) := by
    simp [trail, Action.inside, listening]
  have found : listening.world.session? ⟨0⟩ = some session := by decide +kernel
  have traffic : ∀ doing ∈ lastMoment, doing.2.isTraffic = true := by
    simp [lastMoment, Action.isTraffic]
  obtain ⟨told, inTime⟩ := waitFor_sees reached found filter policy traffic
  obtain ⟨k, _, _, ends⟩ := inTime (by decide) (2000000, .close ⟨0⟩) (by simp [lastMoment])
    (Nat.le_refl _)
  exact ⟨told, ⟨k, ends⟩, by decide +kernel, by decide +kernel⟩

end Client

end EventCapture
