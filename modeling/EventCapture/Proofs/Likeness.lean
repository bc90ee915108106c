import EventCapture.Proofs.Limits
import EventCapture.Proofs.Waiting
import Mathlib.Data.List.Forall2

/-! Worlds that differ in the render limit of one session, and replies that differ in reports.

Of such worlds one shows as much of the session as the first limit says, and the other as much as
the second; views that were taken of the session and are kept under names differ in the same way.
All that is read in them is the same but for such views, and a wait ends in the same way in both,
but for what the report of its failure shows.
-/

set_option autoImplicit false

namespace EventCapture.Scenario

open World

section

variable (first second : Nat)

/-- Views of the same records, equal or with the one limit and with the other. -/
inductive ViewAlike : View → View → Prop where
  | same (view : View) : ViewAlike view view
  | limits (snapshot : Snapshot) : ViewAlike ⟨snapshot, first⟩ ⟨snapshot, second⟩

inductive ObjectAlike : Object → Object → Prop where
  | same (object : Object) : ObjectAlike object object
  | view {a b : View} (alike : ViewAlike first second a b) : ObjectAlike (.view a) (.view b)

/-- The same name for things that are alike. -/
def NamedAlike (a b : String × Object) : Prop := a.1 = b.1 ∧ ObjectAlike first second a.2 b.2

/-- Failures that are equal, or that report on the same records with the one limit and with the
other. -/
inductive FailureAlike : Failure → Failure → Prop where
  | same (failure : Failure) : FailureAlike failure failure
  | timeout (criteria : String) (millis : Nat) (records : List Record) :
      FailureAlike (.timeout criteria millis (Report.render records first))
        (.timeout criteria millis (Report.render records second))
  | assertion (criteria : String) (records : List Record) :
      FailureAlike (.assertion criteria (Report.render records first))
        (.assertion criteria (Report.render records second))

inductive ResultAlike {α : Type} : Except Failure α → Except Failure α → Prop where
  | ok (value : α) : ResultAlike (.ok value) (.ok value)
  | error {a b : Failure} (alike : FailureAlike first second a b) :
      ResultAlike (.error a) (.error b)

/-- Replies that differ in limits of views and in reports alone. -/
inductive ReplyAlike : Reply → Reply → Prop where
  | same (reply : Reply) : ReplyAlike reply reply
  | failed {a b : Failure} (alike : FailureAlike first second a b) :
      ReplyAlike (.failed a) (.failed b)
  | aborted {a b : Failure} (alike : FailureAlike first second a b) :
      ReplyAlike (.aborted a) (.aborted b)
  | view {a b : View} (alike : ViewAlike first second a b) :
      ReplyAlike (.status (.view a)) (.status (.view b))
  | emission (delivered : Nat) (built : Bool) {a b : List Reply}
      (alike : List.Forall₂ ReplyAlike a b) :
      ReplyAlike (.emission delivered built a) (.emission delivered built b)
  | logged {a b : List Reply} (alike : List.Forall₂ ReplyAlike a b) :
      ReplyAlike (.logged a) (.logged b)
  | several {a b : List Reply} (alike : List.Forall₂ ReplyAlike a b) :
      ReplyAlike (.several a) (.several b)
  | captured {a b : List Reply} (alike : List.Forall₂ ReplyAlike a b) (snapshot : Snapshot) :
      ReplyAlike (.captured a snapshot) (.captured b snapshot)
  | waited {x y : Except Failure Record} (result : ResultAlike first second x y) (elapsed : Nat)
      {a b : List Reply} (alike : List.Forall₂ ReplyAlike a b) (left : Nat) :
      ReplyAlike (.waited x elapsed a left) (.waited y elapsed b left)

end

/-- Two worlds that differ in nothing but the render limit of one session, the first in the one and
the second in the other, and in views that names stand for. -/
structure Apart (ref : SessionRef) (first second : Nat) (w v : World) : Prop where
  limit : w.limit? ref = some first
  same : v = w.showing ref second v.scope
  names : List.Forall₂ (NamedAlike first second) w.scope v.scope

section

variable {ref : SessionRef} {first second : Nat}

theorem ViewAlike.snapshot {a b : View} (alike : ViewAlike first second a b) :
    b.snapshot = a.snapshot := by
  cases alike <;> rfl

theorem ViewAlike.report {a b : View} (alike : ViewAlike first second a b)
    (failure : String → Failure)
    (fails : ∀ records, FailureAlike first second (failure (Report.render records first))
      (failure (Report.render records second))) :
    FailureAlike first second (failure a.report) (failure b.report) := by
  cases alike with
  | same view => exact .same _
  | limits snapshot => exact fails snapshot.records

theorem lookup_alike {names others : List (String × Object)}
    (alike : List.Forall₂ (NamedAlike first second) names others) (name : String) :
    others.lookup name = names.lookup name ∨
      ∃ a b, names.lookup name = some (.view a) ∧ others.lookup name = some (.view b) ∧
        ViewAlike first second a b := by
  induction alike with
  | nil => exact .inl rfl
  | @cons one other _ _ named _ ih =>
    obtain ⟨label, object⟩ := one
    obtain ⟨label', object'⟩ := other
    obtain ⟨rfl, alike⟩ := named
    rw [List.lookup_cons, List.lookup_cons]
    cases name == label with
    | false => exact ih
    | true =>
      cases alike with
      | same => exact .inl rfl
      | view views => exact .inr ⟨_, _, rfl, rfl, views⟩

namespace Apart

variable {w v : World} (apart : Apart ref first second w v)

include apart

theorem there : (w.limit? ref).isSome := by rw [apart.limit, Option.isSome_some]

/-- What is blind does the same in both worlds. -/
theorem blind {α : Type} {op : World → World × α} (blind : Blind op) :
    Apart ref first second (op w).1 (op v).1 ∧ (op v).2 = (op w).2 := by
  have moved : op v = ((op w).1.showing ref second v.scope, (op w).2) := by
    rw [apart.same]
    exact blind.same w ref second v.scope apart.there
  refine ⟨⟨blind.limits w ref first apart.limit, ?_, ?_⟩, by rw [moved]⟩
  · rw [moved]
    rfl
  · rw [moved, blind.scope w]
    exact apart.names

theorem read {α : Type} (read : World → α) (indifferent : Indifferent read) :
    read v = read w := by
  rw [apart.same]
  exact indifferent w ref second v.scope

/-! ### Names -/

/-- A name stands for the same in both worlds, or for views of the same records. -/
theorem lookup (name : String) :
    v.lookup name = w.lookup name ∨
      ∃ a b, w.lookup name = some (.view a) ∧ v.lookup name = some (.view b) ∧
        ViewAlike first second a b :=
  lookup_alike apart.names name

theorem routerNamed? (name : String) :
    Scenario.routerNamed? v name = Scenario.routerNamed? w name := by
  unfold Scenario.routerNamed?
  obtain same | ⟨a, b, here, there, _⟩ := apart.lookup name
  · rw [same]
  · rw [here, there]

theorem sinkNamed? (name : String) : Scenario.sinkNamed? v name = Scenario.sinkNamed? w name := by
  unfold Scenario.sinkNamed?
  obtain same | ⟨a, b, here, there, _⟩ := apart.lookup name
  · rw [same]
  · rw [here, there]

theorem sessionNamed? (name : String) :
    Scenario.sessionNamed? v name = Scenario.sessionNamed? w name := by
  unfold Scenario.sessionNamed?
  obtain same | ⟨a, b, here, there, _⟩ := apart.lookup name
  · rw [same]
  · rw [here, there]

theorem routeNamed? (name : String) :
    Scenario.routeNamed? v name = Scenario.routeNamed? w name := by
  unfold Scenario.routeNamed?
  obtain same | ⟨a, b, here, there, _⟩ := apart.lookup name
  · rw [same]
  · rw [here, there]

/-- A session differs from its counterpart in nothing but its render limit. -/
theorem session_cases (other : SessionRef) :
    v.session? other = w.session? other ∨
      ∃ session, w.session? other = some session ∧ session.renderLimit = first ∧
        v.session? other = some (session.showing second) := by
  have moved := (congrArg (·.session? other) apart.same).trans (session?_showing w other)
  by_cases own : other = ref
  · obtain ⟨session, found, shown⟩ := Option.map_eq_some_iff.mp apart.limit
    refine .inr ⟨session, own ▸ found, shown, ?_⟩
    rw [moved, own, found, Option.map_some, if_pos rfl]
  · refine .inl (moved.trans ?_)
    simp [own]

/-- What is read of a session, but for its render limit, is the same. -/
theorem readSession {β : Type} (other : SessionRef) (read : Option Session → β)
    (limitless : ∀ (session : Session) limit,
      read (some (session.showing limit)) = read (some session)) :
    read (v.session? other) = read (w.session? other) := by
  obtain same | ⟨session, here, _, there⟩ := apart.session_cases other
  · rw [same]
  · rw [here, there, limitless]

theorem viewOf (snapshot : Snapshot) (other : SessionRef) :
    ViewAlike first second ⟨snapshot, (w.session? other).elim Report.usualLimit Session.renderLimit⟩
      ⟨snapshot, (v.session? other).elim Report.usualLimit Session.renderLimit⟩ := by
  obtain same | ⟨session, here, rfl, there⟩ := apart.session_cases other
  · rw [same]
    exact .same _
  · rw [here, there]
    exact .limits snapshot

theorem snapshot (id : SinkId) : v.snapshot id = w.snapshot id :=
  apart.read (·.snapshot id) fun _ _ _ _ => rfl

theorem events (other : SessionRef) : v.events other = w.events other := by
  unfold World.events
  simp only [apart.snapshot]
  exact apart.readSession other (·.elim Snapshot.empty fun session => w.snapshot session.sink)
    fun _ _ => rfl

theorem sessionView (other : SessionRef) :
    ViewAlike first second (w.sessionView other) (v.sessionView other) := by
  have alike := apart.viewOf (w.events other) other
  unfold World.sessionView
  rwa [apart.events other]

theorem viewNamed? (name : String) :
    Scenario.viewNamed? w name = none ∧ Scenario.viewNamed? v name = none ∨
      ∃ a b, Scenario.viewNamed? w name = some a ∧ Scenario.viewNamed? v name = some b ∧
        ViewAlike first second a b := by
  unfold Scenario.viewNamed?
  obtain same | ⟨a, b, here, there, alike⟩ := apart.lookup name
  · rw [same]
    split
    · next id _ => exact .inr ⟨_, _, rfl, rfl, apart.snapshot id ▸ .same _⟩
    · next ref _ => exact .inr ⟨_, _, rfl, rfl, apart.sessionView ref⟩
    · exact .inr ⟨_, _, rfl, rfl, .same _⟩
    · exact .inr ⟨_, _, rfl, rfl, .same _⟩
    · exact .inl ⟨rfl, rfl⟩
  · rw [here, there]
    exact .inr ⟨a, b, rfl, rfl, alike⟩

/-! ### Keeping things under names -/

theorem rescoped {names others : List (String × Object)}
    (alike : List.Forall₂ (NamedAlike first second) names others) :
    Apart ref first second { w with scope := names } { v with scope := others } := by
  refine ⟨apart.limit, ?_, alike⟩
  rw [apart.same]
  rfl

/-- What a name stood for is let go in both worlds. -/
theorem release (name : String) {x y : World} (later : Apart ref first second x y) :
    Apart ref first second ((w.lookup name).elim x x.release)
      ((v.lookup name).elim y y.release) := by
  obtain same | ⟨a, b, here, there, _⟩ := apart.lookup name
  · rw [same]
    cases w.lookup name with
    | none => exact later
    | some object =>
      cases object with
      | session ref => exact (later.blind (blind_close ref)).1
      | router | sink | route | snapshot | view => exact later
  · rw [here, there]
    exact later

theorem others (name : String) :
    List.Forall₂ (NamedAlike first second) (w.scope.filter (·.1 != name))
      (v.scope.filter (·.1 != name)) :=
  List.rel_filter (fun a b alike => by dsimp only; rw [alike.1]) apart.names

theorem bind (name : String) {a b : Object} (alike : ObjectAlike first second a b) :
    Apart ref first second (w.bind name a) (v.bind name b) :=
  apart.release name (apart.rescoped (.cons ⟨rfl, alike⟩ (apart.others name)))

theorem unbind (name : String) : Apart ref first second (w.unbind name) (v.unbind name) :=
  apart.release name (apart.rescoped (apart.others name))

theorem keep (name : Option String) {a b : Object} (alike : ObjectAlike first second a b) :
    Apart ref first second (Scenario.keep w name a) (Scenario.keep v name b) := by
  cases name with
  | none => exact apart
  | some name => exact apart.bind name alike

end Apart

/-- Waits that end alike: what is left to do is the same. -/
structure WaitedAlike (first second : Nat) (a b : Waited Reply) : Prop where
  result : ResultAlike first second a.result b.result
  elapsed : b.elapsed = a.elapsed
  during : List.Forall₂ (ReplyAlike first second) a.during b.during
  left : b.left = a.left

/-! ### Steps -/

/-- What two runs give: worlds that are apart, and results that are alike. -/
structure Beside (ref : SessionRef) (first second : Nat) {α : Type} (like : α → α → Prop)
    (here there : World × α) : Prop where
  worlds : Apart ref first second here.1 there.1
  results : like here.2 there.2

/-- A program that keeps worlds apart and gives results that are alike. -/
def Keeps (ref : SessionRef) (first second : Nat) {α : Type} (like : α → α → Prop)
    (run : World → World × α) : Prop :=
  ∀ w v : World, Apart ref first second w v → Beside ref first second like (run w) (run v)

namespace Apart

variable {w v : World} (apart : Apart ref first second w v)

include apart

theorem reply (reply : Reply) :
    Beside ref first second (ReplyAlike first second) (w, reply) (v, reply) :=
  ⟨apart, .same reply⟩

/-- What has nothing to do with render limits and names is read in the same way. -/
theorem reading {α : Type} (read : World → α) (indifferent : Indifferent read)
    (reply : α → Reply) :
    Beside ref first second (ReplyAlike first second) (w, reply (read w)) (v, reply (read v)) := by
  rw [apart.read read indifferent]
  exact apart.reply _

/-- A blind operation is replied to in the same way. -/
theorem blindly {α : Type} {op : World → World × α} (blind : Blind op) (reply : α → Reply) :
    Beside ref first second (ReplyAlike first second) ((op w).1, reply (op w).2)
      ((op v).1, reply (op v).2) := by
  obtain ⟨later, same⟩ := apart.blind blind
  rw [same]
  exact ⟨later, .same _⟩

/-! ### Waits -/

theorem isClosed (other : SessionRef) :
    (v.session? other).all Session.isClosed = (w.session? other).all Session.isClosed :=
  apart.readSession other (·.all Session.isClosed) fun _ _ => rfl

theorem idField (other : SessionRef) :
    (v.session? other).map Session.idField = (w.session? other).map Session.idField :=
  apart.readSession other (·.map Session.idField) fun _ _ => rfl

theorem elapsed : v.elapsed = w.elapsed := apart.read World.elapsed fun _ _ _ _ => rfl

theorem poll (other : SessionRef) (filter : Filter) (policy : WaitPolicy) (began : Nat) :
    v.poll other filter policy began = w.poll other filter policy began := by
  unfold World.poll
  rw [apart.events, apart.isClosed, apart.elapsed]

/-- Of a failure a report tells no more than its kind, so that nobody learns how much it shows. -/
theorem waitExpired (other : SessionRef) (filter : Filter) (began : Nat) :
    Beside ref first second (FailureAlike first second) (w.waitExpired other filter began)
      (v.waitExpired other filter began) := by
  let millis := wholeMillis (w.elapsed - began)
  have alike := (apart.sessionView other).report (.timeout filter.text millis)
    (.timeout filter.text millis)
  have report : Session.waiting.failed
        (.timeout filter.text millis (v.sessionView other).report) millis
        ((v.session? other).toList.map Session.idField) =
      Session.waiting.failed (.timeout filter.text millis (w.sessionView other).report) millis
        ((w.session? other).toList.map Session.idField) := by
    rw [← Option.toList_map, ← Option.toList_map, apart.idField]
    rfl
  have told := (apart.blind (blind_trace (Session.waiting.failed
    (.timeout filter.text millis (w.sessionView other).report) millis
    ((w.session? other).toList.map Session.idField)))).1
  unfold World.waitExpired
  rw [apart.elapsed]
  refine ⟨?_, alike⟩
  dsimp only
  rwa [report]

/-- A wait in vain ends alike. -/
theorem expired (other : SessionRef) (filter : Filter) (began : Nat) (others : List (Due Reply)) :
    Beside ref first second (WaitedAlike first second)
      ((w.waitExpired other filter began).1, ⟨.error (w.waitExpired other filter began).2,
        (w.waitExpired other filter began).1.elapsed - began, 0, [], others⟩)
      ((v.waitExpired other filter began).1, ⟨.error (v.waitExpired other filter began).2,
        (v.waitExpired other filter began).1.elapsed - began, 0, [], others⟩) := by
  obtain ⟨later, alike⟩ := apart.waitExpired other filter began
  exact ⟨later, .error alike, congrArg (· - began) later.elapsed, .nil, rfl⟩

end Apart

/-- What others do in the sleeps of a wait keeps worlds apart. -/
def AllKeep (ref : SessionRef) (first second : Nat) (others : List (Due Reply)) : Prop :=
  ∀ due ∈ others, Keeps ref first second (ReplyAlike first second) due.act

theorem Apart.sleepUntil {others : List (Due Reply)} (keep : AllKeep ref first second others)
    (began wake : Nat) {w v : World} (apart : Apart ref first second w v) :
    Apart ref first second (World.sleepUntil began wake others w).1
        (World.sleepUntil began wake others v).1 ∧
      List.Forall₂ (ReplyAlike first second) (World.sleepUntil began wake others w).2.1
        (World.sleepUntil began wake others v).2.1 := by
  induction others generalizing w v with
  | nil => exact ⟨(apart.blind (blind_advanceTo wake)).1, .nil⟩
  | cons due rest ih =>
    obtain ⟨act, later⟩ := List.forall_mem_cons.mp keep
    unfold World.sleepUntil
    split
    · obtain ⟨acted, reply⟩ := act _ _ (apart.blind (blind_advanceTo (began + due.delay))).1
      obtain ⟨slept, replies⟩ := ih later acted
      exact ⟨slept, .cons reply replies⟩
    · exact ih later apart

theorem Apart.waitRounds (other : SessionRef) (filter : Filter) (policy : WaitPolicy) (began : Nat)
    (rounds : Nat) {others : List (Due Reply)} (keep : AllKeep ref first second others)
    {w v : World} (apart : Apart ref first second w v) :
    Beside ref first second (WaitedAlike first second)
      (World.waitRounds other filter policy began rounds w others)
      (World.waitRounds other filter policy began rounds v others) := by
  induction rounds generalizing w v others with
  | zero => exact apart.expired other filter began others
  | succ rounds ih =>
    unfold World.waitRounds
    rw [apart.poll]
    cases w.poll other filter policy began with
    | found record =>
      exact ⟨apart, .ok record, congrArg (· - began) apart.elapsed, .nil, rfl⟩
    | remaining nanos =>
      let wake := w.elapsed + policy.sleepFor nanos
      have awake : v.elapsed + policy.sleepFor nanos = wake := by rw [apart.elapsed]
      obtain ⟨slept, replies⟩ := apart.sleepUntil keep began wake
      have left : (World.sleepUntil began wake others v).2.2 =
          (World.sleepUntil began wake others w).2.2 := by
        rw [World.sleepUntil_left, World.sleepUntil_left]
      have kept : AllKeep ref first second (World.sleepUntil began wake others w).2.2 := by
        intro due member
        rw [World.sleepUntil_left] at member
        exact keep due (List.mem_filter.mp member).1
      obtain ⟨later, ended⟩ := ih kept slept
      have during := List.rel_append replies ended.during
      dsimp only
      rw [awake, left]
      exact ⟨later, ended.result, ended.elapsed, during, ended.left⟩
    | _ => exact apart.expired other filter began others

theorem Apart.waitFor (other : SessionRef) (filter : Filter) (policy : WaitPolicy)
    {others : List (Due Reply)} (keep : AllKeep ref first second others) {w v : World}
    (apart : Apart ref first second w v) :
    Beside ref first second (WaitedAlike first second) (w.waitFor other filter policy others)
      (v.waitFor other filter policy others) := by
  unfold World.waitFor
  rw [apart.elapsed]
  exact apart.waitRounds other filter policy w.elapsed _ keep

end

end EventCapture.Scenario
