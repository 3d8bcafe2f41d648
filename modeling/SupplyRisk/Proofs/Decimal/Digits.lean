import Mathlib.Algebra.Group.Nat.Defs
import SupplyRisk.Decimal.Fixed

/-!
# Digits and the numbers that they write

The digits of a number write that number (`ofDigits_digits`), are never missing, and start with zero only for zero
itself (`digits_cases`).  Filled up with zeros in front they write the same number and, for a number that fits, are
exactly as many as asked for (`ofDigits_paddedDigits`, `length_paddedDigits`).  A digit is read back from its
character.
-/

namespace SupplyRisk.Decimal

@[simp] theorem digit?_char (d : Digit) : digit? d.char = some d := by
  revert d
  decide

/-- Characters of digits are none of the others that stand in numbers, dates and their surroundings. -/
theorem Digit.char_ne_of_digit?_eq_none {c : Char} (hc : digit? c = none) (d : Digit) : d.char ≠ c := by
  rintro rfl
  rw [digit?_char] at hc
  cases hc

/-- No digit stands at the front. -/
def NoDigitAhead (cs : List Char) : Prop := ∀ c ∈ cs.head?, digit? c = none

@[simp] theorem noDigitAhead_cons {c : Char} {cs : List Char} : NoDigitAhead (c :: cs) ↔ digit? c = none := by
  simp [NoDigitAhead]

/-! ## The number that digits write -/

@[simp] theorem ofDigits_cons (n : Nat) (d : Digit) (ds : List Digit) :
    ofDigits n (d :: ds) = ofDigits (10 * n + d.val) ds := rfl

theorem ofDigits_digitsOnto {fuel n : Nat} (hfuel : n < 10 ^ fuel) (rest : List Digit) :
    ofDigits 0 (digitsOnto fuel n rest) = ofDigits n rest := by
  -- Each round moves the last digit of what is left over to the front of the digits behind it.
  induction fuel generalizing n rest with
  | zero =>
      obtain rfl : n = 0 := by omega
      rfl
  | succ fuel ih =>
      unfold digitsOnto
      dsimp only
      split
      · rw [ofDigits_cons, Nat.mul_zero, Nat.zero_add]
        congr 1
        show n % 10 = n
        omega
      · have hrest : n / 10 < 10 ^ fuel := by omega
        rw [ih hrest, ofDigits_cons]
        congr 1
        show 10 * (n / 10) + n % 10 = n
        omega

theorem lt_ten_pow (n : Nat) : n < 10 ^ (Nat.log2 n + 1) :=
  Nat.lt_of_lt_of_le Nat.lt_log2_self (Nat.pow_le_pow_left (by decide) _)

@[simp] theorem ofDigits_digits (n : Nat) : ofDigits 0 (digits n) = n :=
  ofDigits_digitsOnto (lt_ten_pow n) []

theorem digitsOnto_cases {fuel n : Nat} (hfuel : n < 10 ^ fuel) (hpos : 0 < fuel) (rest : List Digit) :
    ∃ d ds, digitsOnto fuel n rest = d :: ds ++ rest ∧ (d.val = 0 → n = 0 ∧ ds = []) := by
  induction fuel generalizing n rest with
  | zero => omega
  | succ fuel ih =>
      unfold digitsOnto
      dsimp only
      split
      · exact ⟨⟨n % 10, Nat.mod_lt _ (by decide)⟩, [], rfl, fun hzero => ⟨by simp only at hzero; omega, rfl⟩⟩
      · have hrest : n / 10 < 10 ^ fuel := by omega
        have hmore : 0 < fuel := Nat.pos_of_ne_zero fun hzero => by
          subst hzero
          omega
        obtain ⟨d, ds, hdigits, hlead⟩ := ih hrest hmore (⟨n % 10, Nat.mod_lt _ (by decide)⟩ :: rest)
        refine ⟨d, ds ++ [⟨n % 10, Nat.mod_lt _ (by decide)⟩], by rw [hdigits]; simp, fun hzero => ?_⟩
        have := (hlead hzero).1
        omega

/-- The first digit is zero only in the digits of zero, which has no other. -/
theorem digits_cases (n : Nat) : ∃ d ds, digits n = d :: ds ∧ (d.val = 0 → n = 0 ∧ ds = []) := by
  obtain ⟨d, ds, hdigits, hlead⟩ := digitsOnto_cases (lt_ten_pow n) (Nat.succ_pos _) []
  exact ⟨d, ds, by rw [digits, hdigits, List.append_nil], hlead⟩

theorem digits_ne_nil (n : Nat) : digits n ≠ [] := by
  obtain ⟨d, ds, hdigits, -⟩ := digits_cases n
  rw [hdigits]
  exact List.cons_ne_nil d ds

theorem length_digitsOnto_le {fuel n k : Nat} (hn : n < 10 ^ k) (hpos : 0 < k) (rest : List Digit) :
    (digitsOnto fuel n rest).length ≤ k + rest.length := by
  induction fuel generalizing n k rest with
  | zero => exact Nat.le_add_left _ _
  | succ fuel ih =>
      unfold digitsOnto
      dsimp only
      split
      · rw [List.length_cons]
        omega
      · obtain ⟨k, rfl⟩ := Nat.exists_eq_succ_of_ne_zero (Nat.ne_of_gt hpos)
        have hmore : 0 < k := Nat.pos_of_ne_zero fun hzero => by
          subst hzero
          omega
        have hle := ih (n := n / 10) (by omega) hmore (⟨n % 10, Nat.mod_lt _ (by decide)⟩ :: rest)
        rw [List.length_cons] at hle
        omega

/-- A number below a power of ten has no more digits than that. -/
theorem length_digits_le {n k : Nat} (hn : n < 10 ^ k) (hpos : 0 < k) : (digits n).length ≤ k :=
  length_digitsOnto_le hn hpos []

theorem Digit.char_eq_digitChar (d : Digit) : d.char = Nat.digitChar d.val := by
  revert d
  decide

theorem map_char_digitsOnto {fuel n : Nat} (hfuel : n < 10 ^ fuel) (hpos : 0 < fuel) (rest : List Digit) :
    (digitsOnto fuel n rest).map Digit.char = Nat.toDigits 10 n ++ rest.map Digit.char := by
  induction fuel generalizing n rest with
  | zero => omega
  | succ fuel ih =>
      unfold digitsOnto
      rw [Nat.toDigits_eq_if (by decide)]
      dsimp only
      split
      · rename_i hone
        rw [List.map_cons, Digit.char_eq_digitChar, List.singleton_append]
        simp only [Nat.mod_eq_of_lt hone]
      · have hmore : 0 < fuel := Nat.pos_of_ne_zero fun hzero => by
          subst hzero
          omega
        rw [ih (by omega) hmore, List.map_cons, Digit.char_eq_digitChar, List.append_assoc, List.singleton_append]

/-- Whole numbers are written as everywhere. -/
theorem natText_eq_toDigits (n : Nat) : natText n = Nat.toDigits 10 n := by
  rw [natText, digits, map_char_digitsOnto (lt_ten_pow n) (Nat.succ_pos _), List.map_nil, List.append_nil]

/-! ## Padding -/

/-- The digits of a number, filled up with zeros in front. -/
def paddedDigits (width n : Nat) : List Digit := List.replicate (width - (digits n).length) ⟨0, by decide⟩ ++ digits n

theorem paddedText_eq (width n : Nat) : paddedText width n = (paddedDigits width n).map Digit.char := by
  have hzero : Digit.char 0 = '0' := by decide
  simp [paddedText, paddedDigits, natText, hzero]

theorem ofDigits_zeros (k : Nat) (ds : List Digit) :
    ofDigits 0 (List.replicate k ⟨0, by decide⟩ ++ ds) = ofDigits 0 ds := by
  induction k with
  | zero => rfl
  | succ k ih => exact ih

@[simp] theorem ofDigits_paddedDigits (width n : Nat) : ofDigits 0 (paddedDigits width n) = n := by
  rw [paddedDigits, ofDigits_zeros, ofDigits_digits]

theorem length_paddedDigits {width n : Nat} (hn : n < 10 ^ width) (hpos : 0 < width) :
    (paddedDigits width n).length = width := by
  have hle := length_digits_le hn hpos
  rw [paddedDigits, List.length_append, List.length_replicate]
  omega

theorem paddedDigits_ne_nil (width n : Nat) : paddedDigits width n ≠ [] := by
  simp [paddedDigits, digits_ne_nil]

end SupplyRisk.Decimal
