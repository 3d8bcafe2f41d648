import SupplyRisk.Calendar.Instant
import SupplyRisk.Proofs.Calendar.Civil

/-!
# How far the calendar reaches

The years from 1 to 9999 take up a small part of the calendar.  A day or an instant can be moved as long as the days
and seconds last; nothing else stops it, not even a leap second.
-/

namespace SupplyRisk

namespace Civil

/-- The years from 1 to 9999 go from day -719162 to day 2932896. -/
theorem number_of_year {number : Int} (hfirst : 1 ≤ (ofDayNumber number).year)
    (hlast : (ofDayNumber number).year ≤ 9999) : -719162 ≤ number ∧ number ≤ 2932896 := by
  obtain ⟨era, c, q, k, t, month, hcycle, hera, hmonth, hcivil⟩ := ofDayNumber_cases number
  have ht := hcycle.dayOfYear_range
  have hc := hcycle.century_range
  have hq := hcycle.leapCycle_range
  have hk := hcycle.yearOfFour_range
  obtain ⟨y, hy⟩ : ∃ y, y = 100 * c + 4 * q + k := ⟨_, rfl⟩
  have hcount : (number + 719468) % 146097 = 365 * y + 24 * c + q + t := by
    have := hcycle.day_eq
    omega
  have hyear : (ofDayNumber number).year = y + era * 400 + if month < 10 then 0 else 1 := by
    rw [hcivil]
    dsimp only
    omega
  rw [hyear] at hfirst hlast
  clear hcivil hyear hcycle
  have hy_range : 0 ≤ y ∧ y ≤ 399 := by omega
  have hera_range : 0 ≤ era ∧ era ≤ 24 := by split at hfirst <;> omega
  constructor
  · -- Before the first year comes at most the March of the year before it.
    by_cases hzero : era = 0 ∧ y = 0
    · split at hfirst <;> omega
    · omega
  · by_cases hend : era = 24 ∧ y = 399
    · split at hlast <;> omega
    · omega

end Civil

namespace Date

/-- The first day of year 1. -/
def firstDay : Date := ⟨-719162, by decide, by decide⟩

/-- The last day of year 9999. -/
def lastDay : Date := ⟨2932896, by decide, by decide⟩

theorem isSome_ofNumber?_iff {number : Int} :
    (ofNumber? number).isSome = true ↔ -96465292 ≤ number ∧ number ≤ 95026236 := by
  unfold ofNumber?
  split
  · rename_i hrange
    exact iff_of_true rfl hrange
  · rename_i hrange
    exact iff_of_false (fun h => nomatch h) hrange

end Date

namespace Instant

/-- Going back by hours from an instant stays in the calendar as long as there are so many seconds left. -/
theorem isSome_subHours? {i : Instant} {hours : Nat} (hleft : -96465292 * 86400 ≤ i.seconds - hours * 3600) :
    (i.subHours? hours).isSome = true := by
  have hnanos := i.nanos_lt
  have hend := i.lt_end
  have hminute := i.leap_ends_minute
  unfold subHours? addSeconds? ofParts? billion
  -- A leap second stays one only if nothing is taken away from it.
  split
  · rw [dif_pos ⟨by omega, by omega, by omega, by omega⟩]
    rfl
  · split
    · omega
    · rw [dif_pos ⟨by omega, by omega, by omega, by omega⟩]
      rfl

/-- From midnight one can only go back by the hours that there are. -/
theorem of_subHours?_midnight {d : Date} {hours : Nat} (hsome : ((midnight d).subHours? hours).isSome = true) :
    -96465292 * 86400 ≤ d.number * 86400 - hours * 3600 := by
  unfold subHours? addSeconds? ofParts? at hsome
  rw [if_pos (.inl (show 0 < billion by decide))] at hsome
  split at hsome
  · rename_i hrange
    have hfirst : -96465292 * 86400 ≤ d.number * 86400 + -(hours * 3600 : Int) := hrange.1
    omega
  · cases hsome

end Instant

end SupplyRisk
