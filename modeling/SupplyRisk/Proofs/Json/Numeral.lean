import SupplyRisk.Json.Reader
import SupplyRisk.Proofs.Decimal.Digits

/-!
# Reading back written numbers

A number is read back from its text exactly as it was written, down to the digits of its fraction and the sign of its
exponent, if the text goes on with nothing that could belong to a number (`numeral?_text`).
-/

namespace SupplyRisk.Json

open Decimal

theorem spanDigits_map_char {rest : List Char} (hrest : NoDigitAhead rest) (ds : List Digit) :
    spanDigits (ds.map Digit.char ++ rest) = (ds, rest) := by
  induction ds with
  | nil =>
      cases rest with
      | nil => rfl
      | cons c cs =>
          rw [noDigitAhead_cons] at hrest
          simp [spanDigits, hrest]
  | cons d ds ih => simp [spanDigits, ih]

theorem whole?_natText {rest : List Char} (hrest : NoDigitAhead rest) (n : Nat) :
    whole? (natText n ++ rest) = some (n, rest) := by
  obtain ⟨d, ds, hdigits, hlead⟩ := digits_cases n
  have hnumber : ofDigits 0 (d :: ds) = n := by rw [← hdigits, ofDigits_digits]
  have hproper : ¬ (d.val = 0 ∧ ds ≠ []) := fun h => h.2 (hlead h.1).2
  simp only [whole?, natText, hdigits, spanDigits_map_char hrest, hnumber, if_neg hproper]

theorem unsignedExponent?_natText {rest : List Char} (hrest : NoDigitAhead rest) (negative : Bool) (n : Nat) :
    unsignedExponent? negative (natText n ++ rest) = some (some (if negative then -(n : Int) else n), rest) := by
  obtain ⟨d, ds, hdigits, -⟩ := digits_cases n
  have hnumber : ofDigits 0 (d :: ds) = n := by rw [← hdigits, ofDigits_digits]
  simp only [unsignedExponent?, natText, hdigits, spanDigits_map_char hrest, hnumber]

/-- What stands behind a number neither is a digit nor starts a fraction or an exponent. -/
structure EndsNumeral (rest : List Char) : Prop where
  noDigit : NoDigitAhead rest
  noPoint : ∀ c ∈ rest.head?, c ≠ '.'
  noExponent : ∀ c ∈ rest.head?, c ≠ 'e' ∧ c ≠ 'E'

variable {rest : List Char}

theorem exponent?_exponentText (hrest : EndsNumeral rest) (exponent : Option Int) :
    exponent? (Numeral.exponentText true exponent ++ rest) = some (exponent, rest) := by
  cases exponent with
  | none =>
      cases rest with
      | nil => rfl
      | cons c cs =>
          obtain ⟨he, hE⟩ := hrest.noExponent c rfl
          simp [Numeral.exponentText, exponent?, he, hE]
  | some e =>
      by_cases hneg : e < 0
      · have hvalue : -(e.natAbs : Int) = e := by omega
        have hread := unsignedExponent?_natText hrest.noDigit true e.natAbs
        rw [if_pos rfl, hvalue] at hread
        rw [Numeral.exponentText, if_pos hneg]
        exact hread
      · have hvalue : (e.natAbs : Int) = e := by omega
        have hread := unsignedExponent?_natText hrest.noDigit false e.natAbs
        rw [if_neg Bool.false_ne_true, hvalue] at hread
        rw [Numeral.exponentText, if_neg hneg, if_pos rfl]
        exact hread

/-- What stands behind the fraction: the exponent, if there is one, and then what stands behind the number. -/
theorem noDigitAhead_exponentText (hrest : EndsNumeral rest) (exponent : Option Int) :
    NoDigitAhead (Numeral.exponentText true exponent ++ rest) := by
  cases exponent with
  | none => exact hrest.noDigit
  | some e =>
      have hmark : digit? 'e' = none := by decide
      by_cases hneg : e < 0
      · simp [Numeral.exponentText, hneg, hmark]
      · simp [Numeral.exponentText, hneg, hmark]

theorem noPoint_exponentText (hrest : EndsNumeral rest) (exponent : Option Int) :
    ∀ c ∈ (Numeral.exponentText true exponent ++ rest).head?, c ≠ '.' := by
  cases exponent with
  | none => exact hrest.noPoint
  | some e =>
      by_cases hneg : e < 0
      · simp [Numeral.exponentText, hneg]
      · simp [Numeral.exponentText, hneg]

theorem fraction?_fractionText {cs : List Char} (hdigit : NoDigitAhead cs) (hpoint : ∀ c ∈ cs.head?, c ≠ '.')
    (ds : List Digit) : fraction? (Numeral.fractionText ds ++ cs) = some (ds, cs) := by
  cases ds with
  | nil =>
      cases cs with
      | nil => rfl
      | cons c cs =>
          show fraction? (c :: cs) = _
          unfold fraction?
          split
          · rename_i heq
            cases heq
            exact absurd rfl (hpoint '.' rfl)
          · rfl
  | cons d ds =>
      show fraction? ('.' :: ((d :: ds).map Digit.char ++ cs)) = _
      simp only [fraction?, spanDigits_map_char hdigit]

theorem noDigitAhead_fractionText {cs : List Char} (hdigit : NoDigitAhead cs) (ds : List Digit) :
    NoDigitAhead (Numeral.fractionText ds ++ cs) := by
  cases ds with
  | nil => exact hdigit
  | cons d ds => exact noDigitAhead_cons.2 (by decide)

/-- A number starts with its sign or with a digit. -/
theorem text_cons (n : Numeral) : ∃ c cs, n.text true = c :: cs ∧ (c = '-' ∨ ∃ d : Digit, c = d.char) := by
  obtain ⟨negative, whole, fraction, exponent⟩ := n
  cases negative with
  | true => exact ⟨'-', _, rfl, .inl rfl⟩
  | false =>
      obtain ⟨d, ds, hdigits, -⟩ := digits_cases whole
      exact ⟨d.char, ds.map Digit.char ++ Numeral.fractionText fraction ++ Numeral.exponentText true exponent,
        by simp [Numeral.text, natText, hdigits], .inr ⟨d, rfl⟩⟩

/-- A written number is read back as it is. -/
theorem numeral?_text (hrest : EndsNumeral rest) (n : Numeral) :
    numeral? (n.text true ++ rest) = some (n, rest) := by
  obtain ⟨negative, whole, fraction, exponent⟩ := n
  have hexponent := noDigitAhead_exponentText hrest exponent
  have hunsigned : unsignedNumeral? negative
      (natText whole ++ (Numeral.fractionText fraction ++ (Numeral.exponentText true exponent ++ rest))) =
        some (⟨negative, whole, fraction, exponent⟩, rest) := by
    simp only [unsignedNumeral?, whole?_natText (noDigitAhead_fractionText hexponent fraction),
      fraction?_fractionText hexponent (noPoint_exponentText hrest exponent), exponent?_exponentText hrest,
      Option.bind_eq_bind, Option.bind_some]
  cases negative with
  | true => simpa [Numeral.text, numeral?] using hunsigned
  | false =>
      -- A number without sign starts with a digit, so it is not taken for a negative one.
      obtain ⟨d, ds, hdigits, -⟩ := digits_cases whole
      have htext : natText whole = d.char :: ds.map Digit.char := by rw [natText, hdigits, List.map_cons]
      have hminus : d.char ≠ '-' := Digit.char_ne_of_digit?_eq_none (by decide) d
      simp only [Numeral.text, Bool.false_eq_true, if_false, List.nil_append, List.append_assoc]
      unfold numeral?
      split
      · rename_i heq
        rw [htext] at heq
        exact absurd (List.cons.inj heq).1 hminus
      · exact hunsigned

end SupplyRisk.Json
