import SupplyRisk.Calendar.Instant.Reader
import SupplyRisk.Proofs.Calendar.Date

/-!
# Reading back written instants

Every supported instant is read back from its text (`Instant.read?_text`): with a fraction of three, six or nine
digits or none, and in a leap second, which is written as second 60.
-/

namespace SupplyRisk.Instant

open Decimal Text Date

/-- A fraction is read as nanoseconds from as many of its first digits as are written. -/
theorem fraction?_paddedText {width n : Nat} (hwidth : 0 < width) (hwidth' : width ≤ 9) (hn : n < 10 ^ width)
    {c : Char} (hc : digit? c = none) (rest : List Char) :
    fraction? ('.' :: (paddedText width n ++ c :: rest)) = some (n * Nat.pow 10 (9 - width), c :: rest) := by
  have hlength := length_paddedDigits hn hwidth
  have hahead : NoDigitAhead (c :: rest) := noDigitAhead_cons.2 hc
  have htake : takeDigits 9 (paddedText width n ++ c :: rest) = (paddedDigits width n, c :: rest) := by
    rw [paddedText_eq]
    exact takeDigits_map_char hahead (by omega)
  have hbehind (limit : Nat) : takeDigits limit (c :: rest) = ([], c :: rest) :=
    @takeDigits_map_char (c :: rest) hahead [] limit (Nat.zero_le limit)
  obtain ⟨d, ds, hdigits⟩ := List.exists_cons_of_ne_nil (paddedDigits_ne_nil width n)
  have hvalue : ofDigits 0 (d :: ds) = n := by rw [← hdigits, ofDigits_paddedDigits]
  rw [hdigits] at htake hlength
  simp only [fraction?, htake, hvalue, hlength, hbehind]

/-- Nanoseconds are read back from their text, which drops no digit but zeros. -/
theorem fraction?_fractionText {nanos : Nat} (hnanos : nanos < 1000000000) {c : Char} (hc : digit? c = none)
    (hpoint : c ≠ '.') (rest : List Char) :
    fraction? (fractionText nanos ++ c :: rest) = some (nanos, c :: rest) := by
  by_cases hzero : nanos = 0
  · rw [fractionText, if_pos hzero, hzero, List.nil_append]
    unfold fraction?
    split
    · rename_i heq
      exact absurd (List.cons.inj heq).1 hpoint
    · rfl
  -- Three, six or nine digits are written, the fewest that show the fraction.
  by_cases hmilli : nanos % 1000000 = 0
  · have hvalue : nanos / 1000000 * Nat.pow 10 (9 - 3) = nanos := by
      show nanos / 1000000 * 1000000 = nanos
      omega
    rw [fractionText, if_neg hzero, if_pos hmilli, List.cons_append,
      fraction?_paddedText (by decide) (by decide) (by omega) hc, hvalue]
  by_cases hmicro : nanos % 1000 = 0
  · have hvalue : nanos / 1000 * Nat.pow 10 (9 - 6) = nanos := by
      show nanos / 1000 * 1000 = nanos
      omega
    rw [fractionText, if_neg hzero, if_neg hmilli, if_pos hmicro, List.cons_append,
      fraction?_paddedText (by decide) (by decide) (by omega) hc, hvalue]
  · have hvalue : nanos * Nat.pow 10 (9 - 9) = nanos := Nat.mul_one nanos
    rw [fractionText, if_neg hzero, if_neg hmilli, if_neg hmicro, List.cons_append,
      fraction?_paddedText (by decide) (by decide) (by omega) hc, hvalue]

theorem ofParts?_self (i : Instant) : ofParts? i.seconds i.nanos = some i :=
  dif_pos ⟨i.first_le, i.lt_end, i.nanos_lt, i.leap_ends_minute⟩

/-- Second 60 is shown in the last second of a minute only. -/
theorem leap_cases (i : Instant) :
    i.nanos / 1000000000 = 0 ∨ i.nanos / 1000000000 = 1 ∧ i.secondOfDay % 60 = 59 := by
  have hlt := i.nanos_lt
  have hends := i.leap_ends_minute
  unfold secondOfDay
  omega

theorem seconds_eq (i : Instant) : i.date.number * 86400 + i.secondOfDay = i.seconds := by
  show i.seconds / 86400 * 86400 + ((i.seconds % 86400).toNat : Int) = i.seconds
  omega

/-- An instant is read back from its text. -/
theorem read?_text (i : Instant) : read? i.text = some i := by
  have hleap := leap_cases i
  have hseconds := seconds_eq i
  have hs_lt : i.secondOfDay < 86400 := by
    unfold secondOfDay
    omega
  obtain ⟨s, hs⟩ : ∃ s, s = i.secondOfDay := ⟨_, rfl⟩
  rw [← hs] at hleap hseconds hs_lt
  have hfraction := fraction?_fractionText (Nat.mod_lt i.nanos (by decide : 0 < 1000000000)) (c := 'Z') (by decide)
    (by decide) []
  obtain ⟨shown, hshown⟩ : ∃ shown, shown = s % 60 + i.nanos / 1000000000 := ⟨_, rfl⟩
  have htext : i.text.toList = i.date.chars ++ 'T' :: (paddedText 2 (s / 3600) ++ ':' ::
      (paddedText 2 (s / 60 % 60) ++ ':' :: (paddedText 2 shown ++ (fractionText (i.nanos % 1000000000) ++ ['Z'])))) := by
    simp [text, chars, clockText, ← hs, ← hshown]
  have hoffset : offset? (skipBlanks ['Z']) = some (0, []) := by decide
  -- The leap second is taken out of the seconds and put into the nanoseconds again.
  obtain ⟨leap, hleap_eq⟩ : ∃ leap, leap = if shown = 60 then 1 else 0 := ⟨_, rfl⟩
  have hleap_nanos : leap = i.nanos / 1000000000 := by
    rw [hleap_eq]
    split <;> omega
  have hsecond : i.date.number * 86400 +
      ((s / 3600 * 3600 + s / 60 % 60 * 60 + (shown - leap) : Nat) : Int) - 0 = i.seconds := by omega
  have hnanos : i.nanos % 1000000000 + leap * 1000000000 = i.nanos := by omega
  rw [read?, htext]
  simp only [civil?_chars, separator?, true_or, if_true, pair?_paddedText (show s / 3600 < 100 by omega),
    pair?_paddedText (show s / 60 % 60 < 100 by omega), pair?_paddedText (show shown < 100 by omega),
    mark?_cons (c := ':') rfl, hfraction, hoffset, Option.bind_eq_bind, Option.bind_some, ofCivil?_civil,
    ← hleap_eq, hsecond, billion, hnanos, ofParts?_self]
  rw [if_neg]
  simp only [skipBlanks, ne_eq, not_true, false_or, not_or]
  omega

end SupplyRisk.Instant
