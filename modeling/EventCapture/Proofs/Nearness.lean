import EventCapture.Proofs.Shifted
import EventCapture.Window

/-! Windows around an instant.

Outside leap seconds an instant is its count of nanoseconds. A shift adds to it and fails just
when the sum is the count of no instant. So a window around an instant is the closed interval of its
radius: the end that it excludes is one nanosecond behind the last instant, and a bound that fails
lies where no instant is.
-/

set_option autoImplicit false

namespace EventCapture

namespace Instant

/-- An instant that can be represented, outside every leap second. -/
structure IsOrdinary (i : Instant) : Prop where
  plain : i.IsPlain
  first : least ≤ i
  last : i ≤ greatest

instance (i : Instant) : Decidable i.IsOrdinary :=
  decidable_of_iff (i.IsPlain ∧ least ≤ i ∧ i ≤ greatest)
    ⟨fun ⟨plain, first, last⟩ => ⟨plain, first, last⟩,
      fun ordinary => ⟨ordinary.plain, ordinary.first, ordinary.last⟩⟩

variable {i j : Instant} {n : Int}

theorem total_least : least.total = -8334601228800000000000 := rfl

theorem total_greatest : greatest.total = 8210266876799999999999 := rfl

theorem lt_iff_total (first : i.IsPlain) (second : j.IsPlain) : i < j ↔ i.total < j.total := by
  unfold IsPlain nanosPerSecond at first second
  rw [lt_iff, total_eq, total_eq]
  omega

theorem le_iff_total (first : i.IsPlain) (second : j.IsPlain) : i ≤ j ↔ i.total ≤ j.total := by
  rw [← not_lt, lt_iff_total second first, Int.not_lt]

/-- The count of an ordinary instant lies between those of the first and the last. -/
theorem isOrdinary_iff (plain : i.IsPlain) :
    i.IsOrdinary ↔ least.total ≤ i.total ∧ i.total ≤ greatest.total := by
  have low : least.IsPlain := by decide
  have high : greatest.IsPlain := by decide
  rw [← le_iff_total low plain, ← le_iff_total plain high]
  exact ⟨fun ordinary => ⟨ordinary.first, ordinary.last⟩,
    fun inside => ⟨plain, inside.1, inside.2⟩⟩

theorem isPlain_ofTotal (n : Int) : (ofTotal n).IsPlain := by
  unfold IsPlain nanosPerSecond
  rw [ofTotal_eq]
  dsimp only
  omega

theorem total_ofTotal (n : Int) : (ofTotal n).total = n := by
  rw [total_eq, ofTotal_eq]
  dsimp only
  omega

/-- There is one ordinary instant for a count. -/
theorem eq_ofTotal_iff (plain : i.IsPlain) : i = ofTotal n ↔ i.total = n := by
  constructor
  · rintro rfl
    exact total_ofTotal n
  · rintro rfl
    obtain ⟨seconds, nanos⟩ := i
    unfold IsPlain nanosPerSecond at plain
    rw [ofTotal_eq, total_eq, mk.injEq]
    dsimp only at plain ⊢
    omega

/-- Seconds in the range are as good as a count in the range. -/
theorem inRange?_ofTotal (n : Int) :
    (ofTotal n).inRange? = if (ofTotal n).IsOrdinary then some (ofTotal n) else none := by
  have low : least.seconds = -8334601228800 := rfl
  have high : greatest.seconds = 8210266876799 := rfl
  have same : (least.seconds ≤ (ofTotal n).seconds ∧ (ofTotal n).seconds ≤ greatest.seconds) ↔
      (ofTotal n).IsOrdinary := by
    rw [isOrdinary_iff (isPlain_ofTotal n), total_ofTotal, total_least, total_greatest, low, high,
      ofTotal_eq]
    dsimp only
    omega
  simp only [inRange?, same]

/-! ### Exact shifts -/

theorem shift?_of_isPlain (plain : i.IsPlain) (span : Int) :
    i.shift? span = (ofTotal (i.total + span)).inRange? :=
  if_pos plain

/-- A shift that succeeds is exact. -/
theorem shift?_eq_some_iff (plain : i.IsPlain) (span : Int) :
    i.shift? span = some j ↔ j.IsOrdinary ∧ j.total = i.total + span := by
  rw [shift?_of_isPlain plain, inRange?_ofTotal]
  split
  · next inside =>
    rw [Option.some.injEq]
    constructor
    · rintro rfl
      exact ⟨inside, total_ofTotal _⟩
    · rintro ⟨ordinary, count⟩
      exact ((eq_ofTotal_iff ordinary.plain).mpr count).symm
  · next outside =>
    simp only [reduceCtorEq, false_iff]
    rintro ⟨ordinary, count⟩
    rw [← (eq_ofTotal_iff ordinary.plain).mpr count] at outside
    exact outside ordinary

/-- A shift fails just when it leads out of the range. -/
theorem shift?_eq_none_iff (plain : i.IsPlain) (span : Int) :
    i.shift? span = none ↔
      i.total + span < least.total ∨ greatest.total < i.total + span := by
  have within := isOrdinary_iff (isPlain_ofTotal (i.total + span))
  rw [total_ofTotal] at within
  rw [shift?_of_isPlain plain, inRange?_ofTotal]
  split
  · next inside =>
    have bounds := within.mp inside
    simp only [reduceCtorEq, false_iff]
    omega
  · next outside =>
    have beyond := mt within.mpr outside
    simp only [true_iff]
    omega

end Instant

namespace Window

variable {center : Instant}

/-! ### The bounds -/

theorem start_around_eq_some_iff (ordinary : center.IsOrdinary) (span : Int) {start : Instant} :
    (around center span).start = some start ↔
      start.IsOrdinary ∧ start.total = center.total - span.natAbs :=
  Instant.shift?_eq_some_iff ordinary.plain _

theorem start_around_eq_none_iff (ordinary : center.IsOrdinary) (span : Int) :
    (around center span).start = none ↔ center.total - span.natAbs < Instant.least.total := by
  have inside := ((Instant.isOrdinary_iff ordinary.plain).mp ordinary).2
  have failed := Instant.shift?_eq_none_iff ordinary.plain (-(span.natAbs : Int))
  refine failed.trans ⟨fun outside => ?_, fun low => .inl low⟩
  omega

/-- The first of the two additions fails only where the second would. -/
theorem stop_around_eq_some_iff (ordinary : center.IsOrdinary) (span : Int) {stop : Instant} :
    (around center span).stop = some stop ↔
      stop.IsOrdinary ∧ stop.total = center.total + span.natAbs + 1 := by
  have bounds := (Instant.isOrdinary_iff ordinary.plain).mp ordinary
  unfold around
  dsimp only
  rw [Option.bind_eq_some_iff]
  constructor
  · rintro ⟨last, first, second⟩
    obtain ⟨within, count⟩ := (Instant.shift?_eq_some_iff ordinary.plain _).mp first
    obtain ⟨ends, behind⟩ := (Instant.shift?_eq_some_iff within.plain _).mp second
    exact ⟨ends, by omega⟩
  · rintro ⟨ends, count⟩
    have high := ((Instant.isOrdinary_iff ends.plain).mp ends).2
    let last := Instant.ofTotal (center.total + span.natAbs)
    have total : last.total = center.total + span.natAbs := Instant.total_ofTotal _
    have plain : last.IsPlain := Instant.isPlain_ofTotal _
    have within : last.IsOrdinary := (Instant.isOrdinary_iff plain).mpr (by omega)
    exact ⟨last, (Instant.shift?_eq_some_iff ordinary.plain _).mpr ⟨within, total⟩,
      (Instant.shift?_eq_some_iff plain _).mpr ⟨ends, by omega⟩⟩

theorem stop_around_eq_none_iff (ordinary : center.IsOrdinary) (span : Int) :
    (around center span).stop = none ↔
      Instant.greatest.total < center.total + span.natAbs + 1 := by
  have bounds := (Instant.isOrdinary_iff ordinary.plain).mp ordinary
  have plain : (Instant.ofTotal (center.total + span.natAbs + 1)).IsPlain :=
    Instant.isPlain_ofTotal _
  rw [Option.eq_none_iff_forall_ne_some]
  simp only [ne_eq, stop_around_eq_some_iff ordinary]
  constructor
  · intro never
    have outside := mt (fun ordinary => And.intro ordinary (Instant.total_ofTotal _)) (never _)
    rw [Instant.isOrdinary_iff plain, Instant.total_ofTotal] at outside
    omega
  · rintro beyond stop ⟨ends, count⟩
    have high := ((Instant.isOrdinary_iff ends.plain).mp ends).2
    omega

/-! ### The interval -/

theorem start_le_iff (ordinary : center.IsOrdinary) (span : Int) {i : Instant}
    (other : i.IsOrdinary) :
    (∀ start, (around center span).start = some start → start ≤ i) ↔
      center.total - span.natAbs ≤ i.total := by
  have low := ((Instant.isOrdinary_iff other.plain).mp other).1
  cases bound : (around center span).start with
  | none =>
    have outside := (start_around_eq_none_iff ordinary span).mp bound
    simp only [reduceCtorEq, false_implies, implies_true, true_iff]
    omega
  | some start =>
    obtain ⟨begins, count⟩ := (start_around_eq_some_iff ordinary span).mp bound
    simp only [Option.some.injEq, forall_eq', Instant.le_iff_total begins.plain other.plain, count]

theorem lt_stop_iff (ordinary : center.IsOrdinary) (span : Int) {i : Instant}
    (other : i.IsOrdinary) :
    (∀ stop, (around center span).stop = some stop → i < stop) ↔
      i.total ≤ center.total + span.natAbs := by
  have high := ((Instant.isOrdinary_iff other.plain).mp other).2
  cases bound : (around center span).stop with
  | none =>
    have outside := (stop_around_eq_none_iff ordinary span).mp bound
    simp only [reduceCtorEq, false_implies, implies_true, true_iff]
    omega
  | some stop =>
    obtain ⟨ends, count⟩ := (stop_around_eq_some_iff ordinary span).mp bound
    simp only [Option.some.injEq, forall_eq', Instant.lt_iff_total other.plain ends.plain, count]
    omega

/-- A window around an instant holds just the instants that are no further from it than the length
of the span, whatever its sign. Its bounds are exact, and one is missing just when it would lie
outside the range; then every instant is on the right side of where it would be. -/
theorem contains_around_iff {center : Instant} (ordinary : center.IsOrdinary) (span : Int) :
    let window := around center span
    let first := center.total - span.natAbs
    let last := center.total + span.natAbs
    (∀ i : Instant, i.IsOrdinary →
        (window.contains i = true ↔ (i.total - center.total).natAbs ≤ span.natAbs)) ∧
      (∀ start, window.start = some start ↔ start.IsOrdinary ∧ start.total = first) ∧
      (window.start = none ↔ first < Instant.least.total) ∧
      (∀ stop, window.stop = some stop ↔ stop.IsOrdinary ∧ stop.total = last + 1) ∧
      (window.stop = none ↔ Instant.greatest.total < last + 1) ∧
      ∀ i : Instant, i.IsOrdinary →
        (window.start = none → first ≤ i.total) ∧ (window.stop = none → i.total ≤ last) := by
  intro window first last
  refine ⟨fun i other => ?_, fun start => start_around_eq_some_iff ordinary span,
    start_around_eq_none_iff ordinary span, fun stop => stop_around_eq_some_iff ordinary span,
    stop_around_eq_none_iff ordinary span, fun i other => ⟨fun missing => ?_, fun missing => ?_⟩⟩
  · rw [contains_iff, start_le_iff ordinary span other, lt_stop_iff ordinary span other]
    omega
  · refine (start_le_iff ordinary span other).mp fun start found => ?_
    exact absurd (missing.symm.trans found) nofun
  · refine (lt_stop_iff ordinary span other).mp fun stop found => ?_
    exact absurd (missing.symm.trans found) nofun

/-- Nine nanoseconds around an instant nine nanoseconds before the last, and the longest negative
span around the last. -/
theorem contains_around_iff_lastInstants :
    let center : Instant := ⟨8210266876799, 999999990⟩
    let window := around center (-9)
    let whole := around Instant.greatest (-Instant.longestSpan)
    (center.IsOrdinary ∧ Instant.greatest.IsOrdinary ∧ Instant.least.IsOrdinary) ∧
      window.start = some ⟨8210266876799, 999999981⟩ ∧ window.stop = none ∧
      window.contains Instant.greatest = true ∧
      window.contains ⟨8210266876799, 999999981⟩ = true ∧
      window.contains ⟨8210266876799, 999999980⟩ = false ∧
      whole.start = none ∧ whole.stop = none ∧ whole.contains Instant.least = true := by
  intro center window whole
  have ordinary : center.IsOrdinary := by decide
  have last : Instant.greatest.IsOrdinary := by decide
  have first : Instant.least.IsOrdinary := by decide
  obtain ⟨near, starts, _, _, endless, _⟩ := contains_around_iff ordinary (-9)
  obtain ⟨all, _, startless, _, boundless, _⟩ := contains_around_iff last (-Instant.longestSpan)
  refine ⟨⟨ordinary, last, first⟩, (starts _).mpr (by decide +kernel),
    endless.mpr (by decide +kernel), (near _ last).mpr (by decide +kernel),
    (near _ (by decide)).mpr (by decide +kernel), ?_, startless.mpr (by decide +kernel),
    boundless.mpr (by decide +kernel), (all _ first).mpr (by decide +kernel)⟩
  rw [Bool.eq_false_iff, Ne, near _ (by decide)]
  decide +kernel

end Window

end EventCapture
