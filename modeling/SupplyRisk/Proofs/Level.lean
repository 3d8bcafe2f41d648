import SupplyRisk.Level

/-!
# The order of levels
-/

namespace SupplyRisk

namespace Level

variable {a b : Level}

theorem le_iff : a ≤ b ↔ a.rank ≤ b.rank := Iff.rfl

theorem lt_iff : a < b ↔ a.rank < b.rank := Iff.rfl

theorem rank_inj : a.rank = b.rank ↔ a = b := by cases a <;> cases b <;> decide

@[simp] theorem not_lt : ¬ a < b ↔ b ≤ a := by rw [lt_iff, le_iff, Nat.not_lt]

theorem le_refl (a : Level) : a ≤ a := Nat.le_refl a.rank

theorem le_trans {c : Level} (hab : a ≤ b) (hbc : b ≤ c) : a ≤ c := Nat.le_trans hab hbc

theorem lt_of_le_of_lt {c : Level} (hab : a ≤ b) (hbc : b < c) : a < c := Nat.lt_of_le_of_lt hab hbc

theorem lt_of_lt_of_le {c : Level} (hab : a < b) (hbc : b ≤ c) : a < c := Nat.lt_of_lt_of_le hab hbc

theorem le_of_lt (hab : a < b) : a ≤ b := Nat.le_of_lt hab

/-- Below medium there is only low. -/
theorem medium_le_iff : medium ≤ a ↔ a ≠ low := by cases a <;> decide

/-- What has risen is not low. -/
theorem ne_low_of_lt (hab : a < b) : b ≠ low := by
  rintro rfl
  exact absurd hab (Nat.not_lt_zero a.rank)

end Level

end SupplyRisk
