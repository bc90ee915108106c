import EventCapture.Time.WallClock

/-! Instants that are shifted forward: a longer span never leads to an earlier instant, inside a
leap second and out of it. So what lies between two usable readings of a clock is usable. -/

set_option autoImplicit false

namespace EventCapture.Instant

theorem ofTotal_eq (n : Int) : ofTotal n = ⟨n / 1000000000, (n % 1000000000).toNat⟩ := by
  unfold ofTotal nanosPerSecond
  rw [Int.fdiv_eq_ediv_of_nonneg n (by decide), Int.fmod_eq_emod_of_nonneg n (by decide)]
  rfl

theorem total_eq (i : Instant) : i.total = i.seconds * 1000000000 + i.nanos := rfl

/-- The instant a span later, representable or not. -/
def later (i : Instant) (span : Nat) : Instant :=
  if i.nanos < nanosPerSecond then ofTotal (i.total + span)
  -- the span leaves the leap second
  else if 0 < span ∧ 2 * nanosPerSecond ≤ i.nanos + span then
    ofTotal (i.total - nanosPerSecond + span)
  else ⟨i.seconds, i.nanos + span⟩

theorem shift?_eq (i : Instant) (span : Nat) : i.shift? span = (i.later span).inRange? := by
  have second : nanosPerSecond = 1000000000 := rfl
  have whole : (span : Int).tdiv nanosPerSecond = ((span / 1000000000 : Nat) : Int) := rfl
  have rest : (span : Int).tmod nanosPerSecond = ((span % 1000000000 : Nat) : Int) := rfl
  unfold shift? later
  by_cases plain : i.nanos < nanosPerSecond
  · simp only [plain, if_true]
  · -- A span forward leaves the leap second just when it reaches the end of it.
    have leaves : (0 < (span : Int).tdiv nanosPerSecond ∨ 0 < (span : Int).tmod nanosPerSecond ∧
        2 * (nanosPerSecond : Int) ≤ i.nanos + (span : Int).tmod nanosPerSecond) ↔
        0 < span ∧ 2 * nanosPerSecond ≤ i.nanos + span := by omega
    have forward : ¬ (span : Int).tdiv nanosPerSecond < 0 := by omega
    simp only [plain, leaves, forward, if_false]
    split
    · rfl
    · next stays =>
      have nanos : ((i.nanos : Int) + (span : Int).tmod nanosPerSecond).toNat = i.nanos + span := by
        omega
      rw [nanos]

theorem later_zero (i : Instant) : i.later 0 = i := by
  have second : nanosPerSecond = 1000000000 := rfl
  unfold later
  rw [ofTotal_eq, total_eq]
  split
  · obtain ⟨seconds, nanos⟩ := i
    simp only [mk.injEq] at *
    omega
  · rfl

theorem later_le_later (i : Instant) {span more : Nat} (longer : span ≤ more) :
    i.later span ≤ i.later more := by
  have second : nanosPerSecond = 1000000000 := rfl
  rw [le_iff]
  simp only [later, ofTotal_eq, total_eq]
  split
  · dsimp only
    omega
  · split <;> split <;> dsimp only <;> omega

theorem le_later (i : Instant) (span : Nat) : i ≤ i.later span := by
  have longer := i.later_le_later (Nat.zero_le span)
  rwa [later_zero] at longer

/-- An instant that can be represented does not become one that is later than all of them. -/
theorem later_le_greatest {i : Instant} (bounded : i ≤ greatest) {span : Nat}
    (inside : (i.later span).seconds ≤ greatest.seconds) : i.later span ≤ greatest := by
  have second : nanosPerSecond = 1000000000 := rfl
  have seconds : greatest.seconds = 8210266876799 := rfl
  have nanos : greatest.nanos = 999999999 := rfl
  rw [le_iff, seconds, nanos] at bounded ⊢
  rw [seconds] at inside
  revert inside
  simp only [later, ofTotal_eq, total_eq]
  split
  · dsimp only
    omega
  · split <;> dsimp only <;> omega

/-- A time of day is of use from 1970 on, as long as it can be represented. -/
theorem usable_eq_ok_iff {i now : Instant} {span : Nat} {reader : ClockReader} :
    usable reader (i.shift? span) = .ok now ↔
      now = i.later span ∧ 0 ≤ now.seconds ∧ now.seconds ≤ greatest.seconds := by
  have epoch : least.seconds < 0 := by decide
  rw [shift?_eq, inRange?]
  split
  · next inside =>
    unfold usable
    dsimp only
    split
    · simp only [reduceCtorEq, false_iff]
      rintro ⟨rfl, _⟩
      omega
    · rw [Except.ok.injEq]
      constructor
      · rintro rfl
        exact ⟨rfl, by omega, inside.2⟩
      · exact fun same => same.1.symm
  · simp only [usable, reduceCtorEq, false_iff]
    rintro ⟨rfl, _⟩
    omega

/-- A clock that is of use at two readings is of use at all in between. -/
theorem usable_between {i : Instant} {first middle last : Nat} {reader : ClockReader}
    (early : first ≤ middle) (late : middle ≤ last)
    (begun : ∃ now, usable reader (i.shift? first) = .ok now)
    (ended : ∃ now, usable reader (i.shift? last) = .ok now) :
    ∃ now, usable reader (i.shift? middle) = .ok now := by
  obtain ⟨_, begun⟩ := begun
  obtain ⟨_, ended⟩ := ended
  obtain ⟨rfl, low, _⟩ := usable_eq_ok_iff.mp begun
  obtain ⟨rfl, _, high⟩ := usable_eq_ok_iff.mp ended
  have after := le_iff.mp (i.later_le_later early)
  have before := le_iff.mp (i.later_le_later late)
  exact ⟨i.later middle, usable_eq_ok_iff.mpr ⟨rfl, by omega, by omega⟩⟩

end EventCapture.Instant
