import SupplyRisk.Calendar.Date

/-!
# Day numbers and civil dates

A day number is the number of its civil date (`Civil.dayNumber_ofDayNumber`), so a day is found again from its
year, month and day (`Date.ofCivil?_civil`).  The calendar repeats after four hundred years; inside such a cycle a
day is counted by centuries, leap cycles of four years, years and days of the year.
-/

namespace SupplyRisk

namespace Civil

/-- A day of the cycle of four hundred years. -/
structure DayOfCycle (day century leapCycle yearOfFour dayOfYear : Int) : Prop where
  day_eq : day = 36524 * century + 1461 * leapCycle + 365 * yearOfFour + dayOfYear
  century_range : 0 ≤ century ∧ century ≤ 3
  leapCycle_range : 0 ≤ leapCycle ∧ leapCycle ≤ 24
  yearOfFour_range : 0 ≤ yearOfFour ∧ yearOfFour ≤ 3
  dayOfYear_range : 0 ≤ dayOfYear ∧ dayOfYear ≤ 365
  /-- Day 365 ends a leap year, which is the last of four; of the last years of centuries, only the last is one. -/
  leap_year : dayOfYear = 365 → yearOfFour = 3 ∧ (leapCycle = 24 → century = 3)

theorem exists_dayOfCycle (day : Int) (hlow : 0 ≤ day) (hhigh : day < 146097) :
    ∃ c q k t, DayOfCycle day c q k t := by
  -- The last century and the last year of four are a day longer than the others.
  obtain ⟨c, hc⟩ : ∃ c, c = min 3 (day / 36524) := ⟨_, rfl⟩
  obtain ⟨r, hr⟩ : ∃ r, r = day - 36524 * c := ⟨_, rfl⟩
  have hr_range : 0 ≤ r ∧ r ≤ 36524 ∧ (r = 36524 → c = 3) := by omega
  obtain ⟨q, hq⟩ : ∃ q, q = r / 1461 := ⟨_, rfl⟩
  obtain ⟨s, hs⟩ : ∃ s, s = r - 1461 * q := ⟨_, rfl⟩
  obtain ⟨k, hk⟩ : ∃ k, k = min 3 (s / 365) := ⟨_, rfl⟩
  refine ⟨c, q, k, s - 365 * k, ⟨?_, ?_, ?_, ?_, ?_, ?_⟩⟩ <;> omega

/-- The year of the cycle in which a day is. -/
theorem yearOfCycle_eq {day c q k t : Int} (h : DayOfCycle day c q k t) :
    (day - day / 1460 + day / 36524 - day / 146096) / 365 = 100 * c + 4 * q + k := by
  obtain ⟨hday, hc, hq, hk, ht, hleap⟩ := h
  -- One day is left over in every leap cycle that is complete or in its last days.
  have hcycles : day / 1460 = 25 * c + q + if 24 * c + q + 365 * k + t < 1460 then 0 else 1 := by
    split <;> omega
  have hcenturies : day / 36524 = c + if 1461 * q + 365 * k + t < 36524 then 0 else 1 := by
    split <;> omega
  have hlast : day / 146096 = if 1461 * q + 365 * k + t < 36524 then 0 else 1 := by
    split <;> omega
  rw [hcycles, hcenturies, hlast]
  split <;> split <;> omega

/-- The days before a year of the cycle. -/
theorem daysBefore_eq {c q k : Int} (hq : 0 ≤ q ∧ q ≤ 24) (hk : 0 ≤ k ∧ k ≤ 3) :
    365 * (100 * c + 4 * q + k) + (100 * c + 4 * q + k) / 4 - (100 * c + 4 * q + k) / 100 =
      36524 * c + 1461 * q + 365 * k := by
  have hfour : (100 * c + 4 * q + k) / 4 = 25 * c + q := by omega
  have hhundred : (100 * c + 4 * q + k) / 100 = c := by omega
  omega

/-- Where a day stands in the calendar. -/
theorem ofDayNumber_cases (number : Int) :
    ∃ era c q k t month,
      DayOfCycle ((number + 719468) % 146097) c q k t ∧ era = (number + 719468) / 146097 ∧
      month = (5 * t + 2) / 153 ∧
      ofDayNumber number =
        ⟨100 * c + 4 * q + k + era * 400 + (if month < 10 then 0 else 1),
          if month < 10 then month + 3 else month - 9, t - (153 * month + 2) / 5 + 1⟩ := by
  obtain ⟨c, q, k, t, hcycle⟩ := exists_dayOfCycle ((number + 719468) % 146097) (by omega) (by omega)
  refine ⟨_, c, q, k, t, _, hcycle, rfl, rfl, ?_⟩
  have hyear := yearOfCycle_eq hcycle
  have hdays : (number + 719468) % 146097 - (365 * (100 * c + 4 * q + k) + (100 * c + 4 * q + k) / 4 -
      (100 * c + 4 * q + k) / 100) = t := by
    rw [daysBefore_eq hcycle.leapCycle_range hcycle.yearOfFour_range]
    have := hcycle.day_eq
    omega
  have ht := hcycle.dayOfYear_range
  simp only [ofDayNumber, hyear, hdays, Civil.mk.injEq, and_true]
  split <;> split <;> omega

theorem month_range (number : Int) : 1 ≤ (ofDayNumber number).month ∧ (ofDayNumber number).month ≤ 12 := by
  obtain ⟨era, c, q, k, t, month, hcycle, -, hmonth, hcivil⟩ := ofDayNumber_cases number
  have ht := hcycle.dayOfYear_range
  rw [hcivil]
  dsimp only
  split <;> omega

theorem day_range (number : Int) : 1 ≤ (ofDayNumber number).day ∧ (ofDayNumber number).day ≤ 31 := by
  obtain ⟨era, c, q, k, t, month, hcycle, -, hmonth, hcivil⟩ := ofDayNumber_cases number
  have ht := hcycle.dayOfYear_range
  rw [hcivil]
  dsimp only
  omega

/-- A day number is the number of its civil date. -/
theorem dayNumber_ofDayNumber (number : Int) : (ofDayNumber number).dayNumber = number := by
  obtain ⟨era, c, q, k, t, month, hcycle, hera, hmonth, hcivil⟩ := ofDayNumber_cases number
  have ht := hcycle.dayOfYear_range
  have hdays := daysBefore_eq (c := c) hcycle.leapCycle_range hcycle.yearOfFour_range
  obtain ⟨y, hy⟩ : ∃ y, y = 100 * c + 4 * q + k := ⟨_, rfl⟩
  have hy_range : 0 ≤ y ∧ y < 400 := by
    have hc := hcycle.century_range
    have hq := hcycle.leapCycle_range
    have hk := hcycle.yearOfFour_range
    omega
  -- Counted from March, year and month are those that the day number gave.
  have hyear : (if (ofDayNumber number).month ≤ 2 then (ofDayNumber number).year - 1
      else (ofDayNumber number).year) = y + era * 400 := by
    rw [hcivil]
    dsimp only
    split <;> split <;> omega
  have hmonths : ((ofDayNumber number).month + 9) % 12 = month := by
    rw [hcivil]
    dsimp only
    split <;> omega
  have hday : (ofDayNumber number).day = t - (153 * month + 2) / 5 + 1 := by rw [hcivil]
  have hcycles : (y + era * 400) / 400 = era := by omega
  have hrest : (y + era * 400) % 400 = y := by omega
  have hcount := hcycle.day_eq
  simp only [dayNumber, hyear, hmonths, hday, hcycles, hrest]
  rw [← hy] at hdays
  omega

end Civil

namespace Date

theorem ofNumber?_number (d : Date) : ofNumber? d.number = some d := dif_pos ⟨d.first_le, d.le_last⟩

/-- A day is found again from its year, month and day. -/
theorem ofCivil?_civil (d : Date) : ofCivil? d.civil = some d := by
  rw [civil, ofCivil?, Civil.dayNumber_ofDayNumber, if_pos rfl, ofNumber?_number]

end Date

end SupplyRisk
