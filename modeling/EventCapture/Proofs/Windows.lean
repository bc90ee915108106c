import EventCapture.Proofs.Arrival
import EventCapture.Report

/-! Time windows over what a sink shows.

What a sink shows is in the order of time, so that a window selects one piece of it without gaps.
Windows that meet at an instant select pieces that meet: what the one leaves out at its stop the
other begins with. Many records may have the time at which the windows meet, in particular the last
time that can be represented; all of them are on the later side.
-/

set_option autoImplicit false

namespace EventCapture

/-- Where nothing is kept behind something that is not, what is kept comes first. -/
theorem filter_append_filter_not {α : Type} {keep : α → Bool} {items : List α}
    (early : items.Pairwise fun a b => keep b = true → keep a = true) :
    items.filter keep ++ items.filter (!keep ·) = items := by
  induction items with
  | nil => rfl
  | cons first rest ih =>
    obtain ⟨before, tail⟩ := List.pairwise_cons.mp early
    cases kept : keep first with
    | true => simp [kept, ih tail]
    | false =>
      have unkept : ∀ item ∈ rest, keep item = false := fun item member =>
        Bool.eq_false_iff.mpr fun later =>
          Bool.false_ne_true (kept.symm.trans (before item member later))
      have nothing : rest.filter keep = [] := List.filter_eq_nil_iff.mpr (by simpa using unkept)
      have all : rest.filter (!keep ·) = rest := List.filter_eq_self.mpr (by simpa using unkept)
      simp [kept, nothing, all]

/-- Records in the order of their times, of which several may be the same. -/
def Chronological (records : List Record) : Prop :=
  records.Pairwise fun a b => a.timestamp ≤ b.timestamp

namespace Window

/-- The records that a filter on a window selects. -/
def pick (window : Window) (records : List Record) : List Record :=
  records.filter (Filter.ofCalls [.within window]).passes

theorem pick_eq (window : Window) (records : List Record) :
    window.pick records = records.filter fun record => window.contains record.timestamp := by
  refine congrArg (List.filter · records) (funext fun record => ?_)
  simp [Filter.passes, Filter.ofCalls, Filter.call, Filter.any]

theorem pick_unbounded (records : List Record) : unbounded.pick records = records := by
  rw [pick_eq]
  exact List.filter_eq_self.mpr fun _ _ => rfl

/-- Two windows that meet at an instant inside a third one are its two halves. -/
theorem contains_cut {start stop : Option Instant} {cut : Instant}
    (low : ∀ first, start = some first → first ≤ cut)
    (high : ∀ last, stop = some last → cut ≤ last) (i : Instant) :
    (⟨start, some cut⟩ : Window).contains i =
        (decide (i < cut) && (⟨start, stop⟩ : Window).contains i) ∧
      (⟨some cut, stop⟩ : Window).contains i =
        (!decide (i < cut) && (⟨start, stop⟩ : Window).contains i) := by
  have inside (last : Instant) (found : stop = some last) (early : i < cut) : i < last := by
    have order := high last found
    rw [Instant.lt_iff] at *
    rw [Instant.le_iff] at order
    omega
  have after (first : Instant) (found : start = some first) (late : cut ≤ i) : first ≤ i :=
    Instant.le_trans (low first found) late
  constructor
  · rw [Bool.eq_iff_iff, Bool.and_eq_true, decide_eq_true_iff, contains_iff, contains_iff]
    constructor
    · rintro ⟨begun, early⟩
      have early := early cut rfl
      exact ⟨early, begun, fun last found => inside last found early⟩
    · rintro ⟨early, begun, _⟩
      exact ⟨begun, fun last found => Option.some.inj found ▸ early⟩
  · rw [Bool.eq_iff_iff, Bool.and_eq_true, Bool.not_eq_true', decide_eq_false_iff_not,
      Instant.not_lt, contains_iff, contains_iff]
    constructor
    · rintro ⟨late, unfinished⟩
      have late := late cut rfl
      exact ⟨late, fun first found => after first found late, unfinished⟩
    · rintro ⟨late, _, unfinished⟩
      exact ⟨fun first found => Option.some.inj found ▸ late, unfinished⟩

/-- The pieces of two windows that meet make up the piece of the window around them. -/
theorem pick_append_pick {records : List Record} (ordered : Chronological records)
    {start stop : Option Instant} {cut : Instant}
    (low : ∀ first, start = some first → first ≤ cut)
    (high : ∀ last, stop = some last → cut ≤ last) :
    (⟨start, some cut⟩ : Window).pick records ++ (⟨some cut, stop⟩ : Window).pick records =
      (⟨start, stop⟩ : Window).pick records := by
  let whole : Window := ⟨start, stop⟩
  have chronological : Chronological (whole.pick records) :=
    List.Pairwise.sublist List.filter_sublist ordered
  have early : (whole.pick records).Pairwise fun a b =>
      decide (b.timestamp < cut) = true → decide (a.timestamp < cut) = true := by
    refine chronological.imp fun order before => ?_
    rw [decide_eq_true_iff, Instant.lt_iff] at *
    rw [Instant.le_iff] at order
    omega
  rw [← filter_append_filter_not early, pick_eq whole, List.filter_filter, List.filter_filter,
    pick_eq, pick_eq]
  simp only [contains_cut low high, whole]

theorem between_of_le {start stop : Instant} (order : start ≤ stop) :
    between start stop = .ok ⟨some start, some stop⟩ :=
  if_neg (Instant.not_lt.mpr order)

/-- The bounds of a window are refused just when they are the wrong way round. -/
theorem between_refused_iff (start stop : Instant) :
    (∃ fault, between start stop = .error fault) ↔ stop < start := by
  simp [between_eq_error_iff]

/-- Windows at three instants cut records into contiguous pieces that fit together. -/
structure Cuts (records : List Record) (a b c : Instant) : Prop where
  /-- What is before an instant comes first, and what is at it or after it is all the rest. -/
  halves : (before b).pick records ++ (since b).pick records = records
  /-- What is between two instants stands together. -/
  together : ∃ window, between a b = .ok window ∧ window.pick records <:+: records
  /-- Windows that meet select what the window around them selects, and nothing twice. -/
  joined : ∃ left right whole,
    between a b = .ok left ∧ between b c = .ok right ∧ between a c = .ok whole ∧
      left.pick records ++ right.pick records = whole.pick records ∧
        ∀ record ∈ left.pick records, record ∉ right.pick records

theorem cuts_of_chronological {records : List Record} (ordered : Chronological records)
    {a b c : Instant} (first : a ≤ b) (second : b ≤ c) : Cuts records a b c := by
  have halves (cut : Instant) : (before cut).pick records ++ (since cut).pick records = records := by
    have whole : (before cut).pick records ++ (since cut).pick records =
        (⟨none, none⟩ : Window).pick records :=
      pick_append_pick ordered (by simp) (by simp)
    exact whole.trans (pick_unbounded records)
  refine ⟨halves b, ⟨_, between_of_le first, ?_⟩, _, _, _, between_of_le first,
    between_of_le second, between_of_le (Instant.le_trans first second), ?_, ?_⟩
  · -- What is before the later instant ends with what is between the two.
    have early : (before a).pick records ++ (⟨some a, some b⟩ : Window).pick records =
        (before b).pick records :=
      pick_append_pick ordered (by simp) (by simpa using first)
    exact ⟨(before a).pick records, (since b).pick records,
      (congrArg (· ++ (since b).pick records) early).trans (halves b)⟩
  · exact pick_append_pick ordered (by simpa using first) (by simpa using second)
  · intro record left right
    rw [pick_eq, List.mem_filter, contains_iff] at left right
    exact Instant.not_lt.mpr (right.2.1 b rfl) (left.2.2 b rfl)

end Window

/-- The records that an answer shows. -/
def SinkAnswer.shown : SinkAnswer → List Record
  | .snapshot kept => kept.records
  | .drained records => records
  | _ => []

namespace Sink

/-- An answer shows what the sink keeps, or nothing. -/
theorem shown_answer (sink : Sink) (call : SinkCall) :
    (sink.answer call).2.shown.Sublist sink.records := by
  cases call with
  | snapshot | freeze => exact List.Sublist.refl _
  | drain =>
    simp only [answer, drain, SinkAnswer.shown]
    split
    · exact List.nil_sublist _
    · exact List.Sublist.refl _
  | record | size | isEmpty | isSealed => exact List.nil_sublist _

/-- What is answered in a run shows what was kept after the calls before. -/
theorem shown_of_mem_run {sink : Sink} {calls : List SinkCall} {answer : SinkAnswer}
    (member : answer ∈ (sink.run calls).2) :
    ∃ before after, calls = before ++ after ∧
      answer.shown.Sublist (sink.run before).1.records := by
  induction calls generalizing sink with
  | nil => cases member
  | cons call rest ih =>
    rcases List.mem_cons.mp member with rfl | later
    · exact ⟨[], call :: rest, rfl, sink.shown_answer call⟩
    · obtain ⟨before, after, rfl, shown⟩ := ih later
      exact ⟨call :: before, after, rfl, shown⟩

/-- What a sink keeps is in the order of time if the clock does not go back. -/
theorem chronological_run {began : Nat} {wall : Instant} (low : Instant.least ≤ wall)
    (high : wall ≤ Instant.greatest) {calls : List SinkCall}
    (forward : (calls.flatMap SinkCall.reading).Pairwise (· ≤ ·)) :
    Chronological ((start began wall).run calls).1.records := by
  have ordered := @pairwise_additions (start began wall) low high calls forward
  have history : _ = (start began wall).additions calls :=
    (start began wall).drained_append_records calls
  rw [← history] at ordered
  exact (ordered.sublist (List.sublist_append_right _ _)).imp Record.Precedes.timestamp

/-- Whatever a sink shows in a run in which the monotonic clock does not go back, windows cut it into
contiguous pieces that fit together. A window is refused just when its bounds are the wrong way
round, and always as a fault of configuration. -/
theorem windows_cut_shown {began : Nat} {wall : Instant} (low : Instant.least ≤ wall)
    (high : wall ≤ Instant.greatest) {calls : List SinkCall}
    (forward : (calls.flatMap SinkCall.reading).Pairwise (· ≤ ·)) :
    (∀ answer ∈ ((start began wall).run calls).2, ∀ a b c : Instant, a ≤ b → b ≤ c →
        Window.Cuts answer.shown a b c) ∧
      ∀ x y : Instant, ((∃ fault, Window.between x y = .error fault) ↔ y < x) ∧
        ∀ fault, Window.between x y = .error fault →
          fault = .invertedWindow x y ∧
            (Failure.configuration fault).code = "ERR_CONFIGURATION" := by
  refine ⟨fun answer member a b c first second => ?_,
    fun x y => ⟨Window.between_refused_iff x y, ?_⟩⟩
  · obtain ⟨before, after, rfl, shown⟩ := shown_of_mem_run member
    rw [List.flatMap_append, List.pairwise_append] at forward
    have ordered := @chronological_run began wall low high before forward.1
    exact Window.cuts_of_chronological (ordered.sublist shown) first second
  · exact fun fault refused => ⟨(Window.between_eq_error_iff.mp refused).2, rfl⟩

/-- Records of which two have one time, and two others the last time that can be represented. -/
def crowdedCalls : List SinkCall :=
  let event := Event.plain .info "app" "tick"
  [.record 5 event, .record 7 event, .record 7 event, .record 50 event, .record 60 event, .snapshot,
    .drain, .record 70 event, .freeze]

theorem windows_cut_shown_crowded :
    let wall : Instant := ⟨8210266876799, 999999990⟩
    let middle : Instant := ⟨8210266876799, 999999992⟩
    let answers := ((start 5 wall).run crowdedCalls).2
    (Instant.least ≤ wall ∧ wall ≤ Instant.greatest ∧ wall ≤ middle ∧ middle ≤ Instant.greatest ∧
        (crowdedCalls.flatMap SinkCall.reading).Pairwise (· ≤ ·)) ∧
      (∀ answer ∈ answers, Window.Cuts answer.shown wall middle Instant.greatest) ∧
      answers.map (fun answer => ((Window.before middle).pick answer.shown).map (·.seq)) =
        [[], [], [], [], [], [0], [0], [], []] ∧
      answers.map (fun answer =>
          ((Window.mk (some middle) (some Instant.greatest)).pick answer.shown).map (·.seq)) =
        [[], [], [], [], [], [1, 2], [1, 2], [], []] ∧
      ∃ fault, Window.between middle wall = .error fault := by
  intro wall middle answers
  have low : Instant.least ≤ wall := by decide
  have high : wall ≤ Instant.greatest := by decide
  have first : wall ≤ middle := by decide
  have second : middle ≤ Instant.greatest := by decide
  have forward : (crowdedCalls.flatMap SinkCall.reading).Pairwise (· ≤ ·) := by decide +kernel
  obtain ⟨pieces, refusals⟩ := @windows_cut_shown 5 wall low high crowdedCalls forward
  exact ⟨⟨low, high, first, second, forward⟩,
    fun answer member => pieces answer member wall middle _ first second, by decide +kernel,
    by decide +kernel, (refusals middle wall).1.mpr (by decide)⟩

end Sink

end EventCapture
