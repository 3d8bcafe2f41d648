import Mathlib.Data.UInt
import SupplyRisk.Config.Retry

/-!
# Delays before repetitions

A delay is reckoned in words of 64 bits, where a power or a product that does not fit stops at the greatest word.  None
of this shows: the limit of a policy is a word too, so what has stopped at the greatest word is cut off by the limit, as
the exact product would be (`delay_exact`).
-/

namespace SupplyRisk

/-! ## Words that stop at the greatest one -/

namespace Word

theorem toNat_le (a : UInt64) : a.toNat ≤ count64 - 1 := Nat.le_pred_of_lt a.toNat_lt

theorem toNat_saturatingMul (a b : UInt64) :
    (saturatingMul a b).toNat = min (a.toNat * b.toNat) (count64 - 1) := by
  unfold saturatingMul
  split
  · rename_i hfits
    rw [UInt64.toNat_mul, Nat.mod_eq_of_lt hfits]
    omega
  · show count64 - 1 = _
    omega

/-- Under a limit, a product that stops at the greatest word is the exact product. -/
theorem min_saturatingMul (a b limit : UInt64) :
    (min (saturatingMul a b) limit).toNat = min limit.toNat (a.toNat * b.toNat) := by
  have hlimit := toNat_le limit
  rw [UInt64.toNat_min, toNat_saturatingMul]
  omega

theorem shiftLeft?_eq_none {a : UInt64} {places : UInt32} (hplaces : 64 ≤ places.toNat) :
    shiftLeft? a places = none := if_neg (Nat.not_lt.2 hplaces)

/-- A one that is moved to the left is a power of two. -/
theorem shiftLeft?_one {places : UInt32} (hplaces : places.toNat < 64) :
    ∃ word, shiftLeft? 1 places = some word ∧ word.toNat = Nat.pow 2 places.toNat := by
  refine ⟨1 <<< places.toUInt64, if_pos hplaces, ?_⟩
  have hfits : Nat.pow 2 places.toNat < Nat.pow 2 64 := Nat.pow_lt_pow_right (by decide) hplaces
  rw [UInt64.toNat_shiftLeft, UInt32.toNat_toUInt64, Nat.mod_eq_of_lt hplaces, UInt64.toNat_one, Nat.one_shiftLeft]
  exact Nat.mod_eq_of_lt hfits

end Word

/-! ## Delays -/

/-- By how much the delay before a repetition exceeds the base delay. -/
def RetryStrategy.growth (s : RetryStrategy) (attempt : Nat) : Nat :=
  match s with
  | .constant => 1
  | .linear => max attempt 1
  | .exponential => Nat.pow 2 (max attempt 1 - 1)

theorem RetryStrategy.growth_mono (s : RetryStrategy) {m n : Nat} (hle : m ≤ n) : s.growth m ≤ s.growth n := by
  cases s with
  | constant => exact Nat.le_refl 1
  | linear =>
      show max m 1 ≤ max n 1
      omega
  | exponential => exact Nat.pow_le_pow_right (by decide) (by omega)

namespace RetryPolicy

/-- Under a limit, a power that stops at the greatest word is as good as the exact one. -/
theorem min_exponential (base limit : UInt64) (places : UInt32) :
    (min (Word.saturatingMul base ((Word.shiftLeft? 1 places).getD Word.greatest64)) limit).toNat =
      min limit.toNat (base.toNat * Nat.pow 2 places.toNat) := by
  rw [Word.min_saturatingMul]
  by_cases hplaces : places.toNat < 64
  · obtain ⟨word, hword, hpower⟩ := Word.shiftLeft?_one hplaces
    rw [hword, Option.getD_some, hpower]
  · rw [Word.shiftLeft?_eq_none (Nat.not_lt.1 hplaces), Option.getD_none]
    -- Nothing times the greatest word is nothing, and anything else times it is beyond the limit.
    rcases Nat.eq_zero_or_pos base.toNat with hzero | hpos
    · rw [hzero, Nat.zero_mul, Nat.zero_mul]
    · have hlimit := Word.toNat_le limit
      have hpower : Nat.pow 2 64 ≤ Nat.pow 2 places.toNat :=
        Nat.pow_le_pow_right (by decide) (Nat.not_lt.1 hplaces)
      have hcapped : Word.greatest64.toNat ≤ base.toNat * Word.greatest64.toNat := Nat.le_mul_of_pos_left _ hpos
      have hexact : Nat.pow 2 places.toNat ≤ base.toNat * Nat.pow 2 places.toNat := Nat.le_mul_of_pos_left _ hpos
      rw [Nat.min_eq_left (Nat.le_trans hlimit hcapped),
        Nat.min_eq_left (Nat.le_trans (Nat.le_trans hlimit (by decide)) (Nat.le_trans hpower hexact))]

/-- A repetition is counted as the first one at least. -/
theorem toNat_attempt (n : UInt32) : (max n 1).toUInt64.toNat = max n.toNat 1 := by
  rw [UInt32.toNat_toUInt64, UInt32.toNat_max, UInt32.toNat_one]

/-- The number of doublings loses nothing when it is cut to 32 bits. -/
theorem toNat_doublings (n : UInt32) : ((max n 1).toUInt64 - 1).toUInt32.toNat = max n.toNat 1 - 1 := by
  have hattempt := toNat_attempt n
  have hlt := n.toNat_lt
  have hone : (1 : UInt64) ≤ (max n 1).toUInt64 := by
    rw [UInt64.le_iff_toNat_le, hattempt, UInt64.toNat_one]
    omega
  rw [UInt64.toNat_toUInt32, UInt64.toNat_sub_of_le _ _ hone, hattempt, UInt64.toNat_one]
  exact Nat.mod_eq_of_lt (by omega)

/-- The words of a delay hold the exact number of milliseconds. -/
theorem delay_eq (p : RetryPolicy) (n : UInt32) :
    p.delay n = min p.maxDelayMs.toNat (p.baseDelayMs.toNat * p.strategy.growth n.toNat) := by
  unfold delay delayWord
  cases p.strategy with
  | constant =>
      rw [UInt64.toNat_min, RetryStrategy.growth, Nat.mul_one]
      exact Nat.min_comm _ _
  | linear =>
      rw [Word.min_saturatingMul, toNat_attempt, RetryStrategy.growth]
  | exponential =>
      rw [min_exponential, toNat_doublings, RetryStrategy.growth]

/-- **Delays are exact.**  Whatever the words of a policy and the number of a repetition, the delay is the base delay
times the growth of its strategy, reckoned without bounds and cut off at the limit.  So it fits its word, keeps to the
limit, and does not fall from one repetition to a later one. -/
theorem delay_exact (p : RetryPolicy) (n : UInt32) :
    p.delay n = min p.maxDelayMs.toNat (p.baseDelayMs.toNat * p.strategy.growth n.toNat) ∧
      (p.delay n < Word.count64 ∧ p.delay n ≤ p.maxDelayMs.toNat) ∧
      ∀ later : UInt32, n ≤ later → p.delay n ≤ p.delay later := by
  have hlimit : p.delay n ≤ p.maxDelayMs.toNat := by
    rw [delay_eq]
    exact Nat.min_le_left _ _
  refine ⟨delay_eq p n, ⟨Nat.lt_of_le_of_lt hlimit p.maxDelayMs.toNat_lt, hlimit⟩, fun later hle => ?_⟩
  have hgrowth := p.strategy.growth_mono (UInt32.le_iff_toNat_le.1 hle)
  have hproduct := Nat.mul_le_mul_left p.baseDelayMs.toNat hgrowth
  rw [delay_eq, delay_eq]
  omega

/-- A base delay of one millisecond, doubled up to the greatest word. -/
def doubling : RetryPolicy := { baseDelayMs := 1, maxDelayMs := Word.greatest64 }

/-- The sixty-fourth delay is the last power of two that fits a word; the next one is cut off. -/
theorem last_power_before_the_limit :
    (64 : UInt32) ≤ 65 ∧ doubling.delay 64 = 9223372036854775808 ∧ doubling.delay 65 = 18446744073709551615 ∧
      doubling.delay 64 ≤ doubling.delay 65 := by
  obtain ⟨hexact, -, hlater⟩ := doubling.delay_exact 64
  refine ⟨by decide, hexact.trans (by decide), (doubling.delay_exact 65).1.trans ?_, hlater 65 (by decide)⟩
  decide

end RetryPolicy

end SupplyRisk
