import EventCapture.Proofs.Dates
import EventCapture.Proofs.Numerals
import EventCapture.Time.Instant

/-! Written instants.

Every number in a written instant is followed by something that is no digit, so the text tells them
all: year, month and day, which tell the day, and hour, minute and second, which tell the place in
it. A second sixty is the leap second behind the last second of a minute. The fraction has as many
digits as are exact, and their number belongs to it.
-/

set_option autoImplicit false

namespace EventCapture.Instant

open Text

variable {rest more : List Char} {i j : Instant}

/-- An instant that the calendar has: a leap second comes after the last second of a minute. -/
structure IsDated (i : Instant) : Prop where
  nanos : i.nanos < 2 * nanosPerSecond
  leap : nanosPerSecond ≤ i.nanos → i.seconds % 60 = 59

instance (i : Instant) : Decidable i.IsDated :=
  decidable_of_iff (i.nanos < 2 * nanosPerSecond ∧ (nanosPerSecond ≤ i.nanos → i.seconds % 60 = 59))
    ⟨fun both => ⟨both.1, both.2⟩, fun dated => ⟨dated.nanos, dated.leap⟩⟩

/-! ### Years -/

/-- What stands in front of the digits of a year. -/
def yearSign (year : Int) : List Char :=
  if 0 ≤ year ∧ year ≤ 9999 then [] else if year < 0 then ['-'] else ['+']

theorem toList_yearText (year : Int) :
    (yearText year).toList = yearSign year ++ (zeroPadded 4 year.natAbs).toList := by
  unfold yearText yearSign
  by_cases plain : 0 ≤ year ∧ year ≤ 9999
  · have same : year.toNat = year.natAbs := by omega
    simp [plain, same]
  · rw [if_neg plain, if_neg plain, String.toList_append]
    split <;> rfl

theorem isDigit_of_mem_yearSign {c : Char} {year : Int} (member : c ∈ yearSign year) :
    c.isDigit = false := by
  unfold yearSign at member
  split at member
  · cases member
  · split at member <;> rw [List.mem_singleton.mp member] <;> rfl

theorem eq_of_yearSign {year other : Int} (sign : yearSign year = yearSign other)
    (size : year.natAbs = other.natAbs) : year = other := by
  unfold yearSign at sign
  split at sign <;> split at sign <;> grind

theorem newline_notMem_yearText (year : Int) : '\n' ∉ (yearText year).toList := by
  rw [toList_yearText, List.mem_append, not_or]
  refine ⟨fun member => ?_, notMem_zeroPadded rfl _ _⟩
  unfold yearSign at member
  split at member
  · cases member
  · split at member <;> contradiction

theorem yearText_append_inj {year other : Int} (stops : Stops rest) (stops' : Stops more)
    (same : (yearText year).toList ++ rest = (yearText other).toList ++ more) :
    year = other ∧ rest = more := by
  rw [toList_yearText, toList_yearText, List.append_assoc, List.append_assoc] at same
  -- A sign is a run of what is no digit, and the digits are a run in front of what is none again.
  obtain ⟨sign, digits⟩ := run_append_inj (fun c => !c.isDigit)
    (by simpa using fun _ => isDigit_of_mem_yearSign)
    (by simpa using fun _ => isDigit_of_mem_yearSign)
    (by simpa using fun _ => isDigit_head_zeroPadded _ _ _)
    (by simpa using fun _ => isDigit_head_zeroPadded _ _ _) same
  obtain ⟨size, rest⟩ := zeroPadded_append_inj stops stops' digits
  exact ⟨eq_of_yearSign sign size, rest⟩

/-! ### Fractions -/

/-- How many digits of a fraction are exact. -/
def places (nanos : Nat) : Nat :=
  if nanos % 1000000 = 0 then 3 else if nanos % 1000 = 0 then 6 else 9

theorem fractionText_exact (nanos : Nat) :
    fractionText .exact nanos =
      if nanos = 0 then ""
      else "." ++ zeroPadded (places nanos) (nanos / 10 ^ (9 - places nanos)) := by
  dsimp only [fractionText]
  unfold places
  split
  · rfl
  · split
    · rfl
    · split
      · rfl
      · rw [Nat.sub_self, Nat.pow_zero, Nat.div_one]

theorem places_bounds {nanos : Nat} (below : nanos < 1000000000) :
    0 < places nanos ∧ nanos / 10 ^ (9 - places nanos) < 10 ^ places nanos ∧
      nanos / 10 ^ (9 - places nanos) * 10 ^ (9 - places nanos) = nanos := by
  unfold places
  split
  · omega
  · split <;> omega

/-- The digits of a fraction tell how many are exact, and so what they are worth. -/
theorem fractionText_inj {nanos other : Nat} (below : nanos < 1000000000)
    (below' : other < 1000000000)
    (same : (fractionText .exact nanos).toList ++ ['Z'] =
      (fractionText .exact other).toList ++ ['Z']) : nanos = other := by
  have texts : fractionText .exact nanos = fractionText .exact other :=
    String.toList_inj.mp (List.append_cancel_right same)
  rw [fractionText_exact, fractionText_exact] at texts
  by_cases whole : nanos = 0
  · by_cases whole' : other = 0
    · rw [whole, whole']
    · simp [whole, whole'] at texts
  · by_cases whole' : other = 0
    · simp [whole, whole'] at texts
    · rw [if_neg whole, if_neg whole'] at texts
      have digits := congrArg String.toList texts
      rw [String.toList_append, String.toList_append, List.append_cancel_left_eq] at digits
      obtain ⟨some, fits, exact⟩ := places_bounds below
      obtain ⟨some', fits', exact'⟩ := places_bounds below'
      have alike := congrArg List.length digits
      rw [length_zeroPadded some fits, length_zeroPadded some' fits'] at alike
      rw [← alike] at digits exact'
      have values := congrArg (Nat.ofDigitChars 10 · 0) digits
      rw [ofDigitChars_zeroPadded, ofDigitChars_zeroPadded] at values
      rw [← exact, values, exact']

theorem stops_fractionText (nanos : Nat) : Stops ((fractionText .exact nanos).toList ++ ['Z']) := by
  rw [fractionText_exact]
  split
  · exact stops_cons rfl _
  · rw [String.toList_append]
    exact stops_cons rfl _

/-! ### Instants -/

/-- The day of an instant, counted from the first of January 1970. -/
def day (i : Instant) : Int := i.seconds.fdiv secondsPerDay

/-- The second of the day of an instant. -/
def secondOfDay (i : Instant) : Nat := (i.seconds.fmod secondsPerDay).toNat

theorem toList_stampText (i : Instant) :
    let date := Time.Date.ofDays i.day
    i.stampText.toList =
      (yearText date.year).toList ++ '-' :: ((zeroPadded 2 date.month).toList ++ '-' ::
        ((zeroPadded 2 date.day).toList ++ 'T' :: ((zeroPadded 2 (i.secondOfDay / 3600)).toList ++
          ':' :: ((zeroPadded 2 (i.secondOfDay / 60 % 60)).toList ++
            ':' :: ((zeroPadded 2 (i.secondOfDay % 60 + i.nanos / nanosPerSecond)).toList ++
              ((fractionText .exact (i.nanos % nanosPerSecond)).toList ++ ['Z'])))))) := by
  have dash : "-".toList = ['-'] := rfl
  have colon : ":".toList = [':'] := rfl
  have time : "T".toList = ['T'] := rfl
  have zone : "Z".toList = ['Z'] := rfl
  simp only [stampText, text, day, secondOfDay, String.toList_append, List.append_assoc,
    List.cons_append, List.nil_append, dash, colon, time, zone]

/-- A leap second does not get the text of another second of the minute. -/
theorem eq_of_places (dated : i.IsDated) (dated' : j.IsDated) (days : i.day = j.day)
    (hours : i.secondOfDay / 3600 = j.secondOfDay / 3600)
    (minutes : i.secondOfDay / 60 % 60 = j.secondOfDay / 60 % 60)
    (seconds : i.secondOfDay % 60 + i.nanos / nanosPerSecond =
      j.secondOfDay % 60 + j.nanos / nanosPerSecond)
    (fractions : i.nanos % nanosPerSecond = j.nanos % nanosPerSecond) : i = j := by
  obtain ⟨nanos, leap⟩ := dated
  obtain ⟨nanos', leap'⟩ := dated'
  have divided (k : Instant) :
      k.seconds = k.day * 86400 + k.secondOfDay ∧ k.secondOfDay < 86400 := by
    rw [day, secondOfDay, secondsPerDay, Int.fdiv_eq_ediv_of_nonneg _ (by decide),
      Int.fmod_eq_emod_of_nonneg _ (by decide)]
    omega
  have here := divided i
  have there := divided j
  simp only [nanosPerSecond] at *
  have same : i.seconds = j.seconds ∧ i.nanos = j.nanos := by omega
  cases i
  cases j
  rw [mk.injEq]
  exact same

/-- Two instants of the calendar never have one text. -/
theorem stampText_inj (dated : i.IsDated) (dated' : j.IsDated) (same : i.stampText = j.stampText) :
    i = j := by
  have texts := congrArg String.toList same
  rw [toList_stampText, toList_stampText] at texts
  obtain ⟨year, texts⟩ := yearText_append_inj (stops_cons rfl _) (stops_cons rfl _) texts
  obtain ⟨month, texts⟩ := zeroPadded_append_inj (stops_cons rfl _) (stops_cons rfl _)
    (List.cons.inj texts).2
  obtain ⟨day, texts⟩ := zeroPadded_append_inj (stops_cons rfl _) (stops_cons rfl _)
    (List.cons.inj texts).2
  obtain ⟨hours, texts⟩ := zeroPadded_append_inj (stops_cons rfl _) (stops_cons rfl _)
    (List.cons.inj texts).2
  obtain ⟨minutes, texts⟩ := zeroPadded_append_inj (stops_cons rfl _) (stops_cons rfl _)
    (List.cons.inj texts).2
  obtain ⟨seconds, texts⟩ := zeroPadded_append_inj (stops_fractionText _) (stops_fractionText _)
    (List.cons.inj texts).2
  have fractions := fractionText_inj (Nat.mod_lt _ (by decide)) (Nat.mod_lt _ (by decide)) texts
  have dates : Time.Date.ofDays i.day = Time.Date.ofDays j.day :=
    (Time.Date.mk.injEq ..).mpr ⟨year, month, day⟩
  exact eq_of_places dated dated' (Time.Date.ofDays_injective dates) hours minutes seconds fractions

theorem newline_notMem_reportText (i : Instant) : '\n' ∉ i.reportText.toList := by
  have digits (width n : Nat) : '\n' ∉ (zeroPadded width n).toList := notMem_zeroPadded rfl width n
  simp [reportText, text, fractionText, digits, newline_notMem_yearText]

end EventCapture.Instant
