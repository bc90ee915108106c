import EventCapture.Time.Calendar

/-! Dates and the days that they name.

A date is found by dividing the days into eras of four hundred years, years that begin in March and
months, each with a formula that takes the uneven lengths into account. Counting the days before a
date gives the day back, so that two days never have one date.
-/

set_option autoImplicit false

namespace EventCapture.Time

/-- The days of an era before one of its years. -/
def daysBefore (year : Nat) : Nat := 365 * year + year / 4 - year / 100

/-- The days of a year before one of its months, both beginning with March. -/
def daysBeforeMonth (month : Nat) : Nat := (153 * month + 2) / 5

/-- The year of an era on one of its days. -/
def yearOfEra (day : Nat) : Nat := (day - day / 1460 + day / 36524 - day / 146096) / 365

/-- The month of a year, beginning with March, on one of its days. -/
def marchMonth (day : Nat) : Nat := (5 * day + 2) / 153

/-- The number of a month that is counted from March, when the count begins with January. -/
def calendarMonth (month : Nat) : Nat := if month < 10 then month + 3 else month - 9

/-- The days from the first of January 1970 to a date. -/
def Date.days (date : Date) : Int :=
  let year := date.year - if date.month ≤ 2 then 1 else 0
  year / 400 * daysPerEra + daysBefore (year % 400).toNat +
    daysBeforeMonth ((date.month + 9) % 12) + date.day - 719469

/-- A day of an era lies in a century, in a group of four years and in a year of the group. Only the
last century and the last year of a group have a day more than the others. -/
theorem exists_parts {day : Nat} (inside : day < 146097) :
    ∃ century group year rest, century ≤ 3 ∧ group ≤ 24 ∧ year ≤ 3 ∧ rest ≤ 365 ∧
      (rest = 365 → year = 3) ∧ (group = 24 → year = 3 → rest = 365 → century = 3) ∧
      day = 36524 * century + 1461 * group + 365 * year + rest := by
  obtain ⟨century, more, rfl, centuries, short, longest⟩ :
      ∃ century more, day = 36524 * century + more ∧ century ≤ 3 ∧ more ≤ 36524 ∧
        (more = 36524 → century = 3) := by
    by_cases last : day = 146096
    · exact ⟨3, 36524, by omega⟩
    · exact ⟨day / 36524, day % 36524, by omega⟩
  obtain ⟨group, days, rfl, groups, few, longer⟩ :
      ∃ group days, more = 1461 * group + days ∧ group ≤ 24 ∧ days ≤ 1460 ∧
        (group = 24 → days = 1460 → century = 3) :=
    ⟨more / 1461, more % 1461, by omega⟩
  obtain ⟨year, rest, rfl, years, within, leap⟩ :
      ∃ year rest, days = 365 * year + rest ∧ year ≤ 3 ∧ rest ≤ 365 ∧ (rest = 365 → year = 3) := by
    by_cases last : days = 1460
    · exact ⟨3, 365, by omega⟩
    · exact ⟨days / 365, days % 365, by omega⟩
  exact ⟨century, group, year, rest, centuries, groups, years, within, leap, by omega, by omega⟩

/-- The formula for the year divides the days as the calendar does. -/
theorem yearOfEra_of_parts {century group year rest : Nat} (centuries : century ≤ 3)
    (groups : group ≤ 24) (years : year ≤ 3) (within : rest ≤ 365) (leap : rest = 365 → year = 3)
    (longest : group = 24 → year = 3 → rest = 365 → century = 3) :
    yearOfEra (36524 * century + 1461 * group + 365 * year + rest) =
      100 * century + 4 * group + year := by
  have first : (36524 * century + 1461 * group + 365 * year + rest) / 1460 =
      25 * century + group + (24 * century + group + 365 * year + rest) / 1460 := by omega
  have second : (36524 * century + 1461 * group + 365 * year + rest) / 36524 -
      (36524 * century + 1461 * group + 365 * year + rest) / 146096 = century := by omega
  have ordered (day : Nat) : day / 146096 ≤ day / 36524 := by omega
  rw [yearOfEra, Nat.add_sub_assoc (ordered _), second, first]
  clear first second ordered longest
  omega

theorem daysBefore_of_parts {century group year : Nat} (groups : group ≤ 24) (years : year ≤ 3) :
    daysBefore (100 * century + 4 * group + year) =
      36524 * century + 1461 * group + 365 * year := by
  have fours : (100 * century + 4 * group + year) / 4 = 25 * century + group := by omega
  have centuries : (100 * century + 4 * group + year) / 100 = century := by omega
  rw [daysBefore, fours, centuries]
  omega

theorem yearOfEra_bounds {day : Nat} (inside : day < 146097) :
    yearOfEra day ≤ 399 ∧ daysBefore (yearOfEra day) ≤ day ∧
      day ≤ daysBefore (yearOfEra day) + 365 := by
  obtain ⟨century, group, year, rest, centuries, groups, years, within, leap, longest, rfl⟩ :=
    exists_parts inside
  rw [yearOfEra_of_parts centuries groups years within leap longest,
    daysBefore_of_parts groups years]
  omega

theorem marchMonth_bounds {day : Nat} (inside : day ≤ 365) :
    marchMonth day ≤ 11 ∧ daysBeforeMonth (marchMonth day) ≤ day := by
  unfold marchMonth daysBeforeMonth
  omega

theorem march_calendarMonth {month : Nat} (inside : month ≤ 11) :
    (calendarMonth month + 9) % 12 = month := by
  unfold calendarMonth
  split <;> omega

/-- Counting the days before a date gives the day back. -/
theorem Date.days_ofDays (days : Int) : (ofDays days).days = days := by
  obtain ⟨era, day, inside, whole⟩ : ∃ (era : Int) (day : Nat), day < 146097 ∧
      days + 719468 = era * 146097 + day :=
    ⟨(days + 719468) / 146097, ((days + 719468) % 146097).toNat, by omega, by omega⟩
  have eras : (days + 719468).fdiv daysPerEra = era := by
    rw [daysPerEra, Int.fdiv_eq_ediv_of_nonneg _ (by decide), whole]
    omega
  have within : (days + 719468 - era * daysPerEra).toNat = day := by
    rw [daysPerEra, whole]
    omega
  obtain ⟨years, low, high⟩ := yearOfEra_bounds inside
  generalize rest : day - daysBefore (yearOfEra day) = dayOfYear
  obtain ⟨months, begun⟩ := marchMonth_bounds (show dayOfYear ≤ 365 by omega)
  have date : ofDays days =
      ⟨yearOfEra day + era * 400 + if calendarMonth (marchMonth dayOfYear) ≤ 2 then 1 else 0,
        calendarMonth (marchMonth dayOfYear),
        dayOfYear - daysBeforeMonth (marchMonth dayOfYear) + 1⟩ := by
    rw [← rest]
    unfold ofDays
    simp only [eras, within]
    rfl
  have year : (yearOfEra day + era * 400 : Int) / 400 = era := by omega
  have yearInEra : ((yearOfEra day + era * 400 : Int) % 400).toNat = yearOfEra day := by omega
  simp only [date, Date.days, Int.add_sub_cancel, year, yearInEra, march_calendarMonth months]
  rw [daysPerEra]
  omega

theorem Date.ofDays_injective {first second : Int} (same : Date.ofDays first = Date.ofDays second) :
    first = second := by
  rw [← Date.days_ofDays first, same, Date.days_ofDays]

end EventCapture.Time
