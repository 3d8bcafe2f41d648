import SupplyRisk.Calendar.Date.Reader
import SupplyRisk.Proofs.Calendar.Civil
import SupplyRisk.Proofs.Decimal.Digits

/-!
# Reading back written dates

Every supported day is read back from its text (`Date.read?_text`), whether its year is written with four digits or
behind a sign.
-/

namespace SupplyRisk.Date

open Decimal Text

theorem isBlank_char (d : Digit) : isBlank d.char = false := by
  revert d
  decide

theorem skipBlanks_cons {c : Char} (hc : isBlank c = false) (cs : List Char) : skipBlanks (c :: cs) = c :: cs := by
  simp [skipBlanks, hc]

/-- White space is skipped in front of digits, where there is none. -/
theorem skipBlanks_digits {ds : List Digit} (hds : ds ≠ []) (rest : List Char) :
    skipBlanks (ds.map Digit.char ++ rest) = ds.map Digit.char ++ rest := by
  cases ds with
  | nil => exact absurd rfl hds
  | cons d ds => exact skipBlanks_cons (isBlank_char d) _

theorem takeDigits_map_char {rest : List Char} (hrest : NoDigitAhead rest) {ds : List Digit} {limit : Nat}
    (hlimit : ds.length ≤ limit) : takeDigits limit (ds.map Digit.char ++ rest) = (ds, rest) := by
  induction ds generalizing limit with
  | nil =>
      cases limit with
      | zero => rfl
      | succ limit =>
          cases rest with
          | nil => rfl
          | cons c cs => simp [takeDigits, noDigitAhead_cons.1 hrest]
  | cons d ds ih =>
      obtain ⟨limit, rfl⟩ := Nat.exists_eq_succ_of_ne_zero (Nat.ne_of_gt (Nat.zero_lt_of_lt hlimit))
      simp [takeDigits, ih (Nat.le_of_succ_le_succ hlimit)]

/-- Exactly as many digits as are asked for are taken whatever stands behind them. -/
theorem takeDigits_length (ds : List Digit) (rest : List Char) :
    takeDigits ds.length (ds.map Digit.char ++ rest) = (ds, rest) := by
  induction ds with
  | nil => cases rest <;> rfl
  | cons d ds ih => simp [takeDigits, ih]

theorem number?_of_takeDigits {limit : Nat} {cs rest : List Char} {ds : List Digit} (hds : ds ≠ [])
    (htake : takeDigits limit cs = (ds, rest)) : number? limit cs = some (ofDigits 0 ds, rest) := by
  cases ds with
  | nil => exact absurd rfl hds
  | cons d ds => simp only [number?, htake]

/-- Two digits are read as a number, whatever stands behind them. -/
theorem pair?_paddedText {n : Nat} (hn : n < 100) (rest : List Char) :
    pair? (paddedText 2 n ++ rest) = some (n, rest) := by
  have hlength : (paddedDigits 2 n).length = 2 := length_paddedDigits hn (by decide)
  have htake := takeDigits_length (paddedDigits 2 n) rest
  rw [hlength] at htake
  rw [pair?, paddedText_eq, skipBlanks_digits (paddedDigits_ne_nil 2 n),
    number?_of_takeDigits (paddedDigits_ne_nil 2 n) htake, ofDigits_paddedDigits]

theorem mark?_cons {c : Char} (hc : isBlank c = false) (rest : List Char) : mark? c (c :: rest) = some rest := by
  simp [mark?, skipBlanks_cons hc]

/-- Behind a sign all digits belong to the year. -/
theorem number?_signed {rest : List Char} (hrest : NoDigitAhead rest) (n : Nat) :
    number? (paddedText 4 n ++ rest).length (paddedText 4 n ++ rest) = some (n, rest) := by
  rw [paddedText_eq]
  rw [number?_of_takeDigits (paddedDigits_ne_nil 4 n) (takeDigits_map_char hrest (by simp)), ofDigits_paddedDigits]

theorem year?_yearText {rest : List Char} (hrest : NoDigitAhead rest) (year : Int) :
    year? (yearText year ++ rest) = some (year, rest) := by
  by_cases hfour : 0 ≤ year ∧ year ≤ 9999
  · have hlength : (paddedDigits 4 year.natAbs).length = 4 := length_paddedDigits (by omega) (by decide)
    have hnumber : number? 4 (paddedText 4 year.natAbs ++ rest) = some (year.natAbs, rest) := by
      rw [paddedText_eq, number?_of_takeDigits (paddedDigits_ne_nil 4 _)
        (takeDigits_map_char hrest (Nat.le_of_eq hlength)), ofDigits_paddedDigits]
    have hyear : (year.natAbs : Int) = year := by omega
    have hskip : skipBlanks (paddedText 4 year.natAbs ++ rest) = paddedText 4 year.natAbs ++ rest := by
      rw [paddedText_eq, skipBlanks_digits (paddedDigits_ne_nil 4 _)]
    -- Without a sign the text starts with a digit.
    obtain ⟨d, ds, hdigits⟩ := List.exists_cons_of_ne_nil (paddedDigits_ne_nil 4 year.natAbs)
    have htext : paddedText 4 year.natAbs ++ rest = d.char :: (ds.map Digit.char ++ rest) := by
      rw [paddedText_eq, hdigits, List.map_cons, List.cons_append]
    rw [yearText, if_pos hfour, year?, hskip]
    split
    · rename_i heq
      rw [htext] at heq
      exact absurd (List.cons.inj heq).1 (Digit.char_ne_of_digit?_eq_none (by decide) d)
    · rename_i heq
      rw [htext] at heq
      exact absurd (List.cons.inj heq).1 (Digit.char_ne_of_digit?_eq_none (by decide) d)
    · rw [hnumber, Option.map_some, hyear]
  · have hnumber := number?_signed hrest year.natAbs
    rw [yearText, if_neg hfour]
    by_cases hneg : year < 0
    · have hyear : -(year.natAbs : Int) = year := by omega
      simp only [if_pos hneg, List.cons_append, year?, skipBlanks_cons (c := '-') rfl, hnumber, Option.map_some, hyear]
    · have hyear : (year.natAbs : Int) = year := by omega
      simp only [if_neg hneg, List.cons_append, year?, skipBlanks_cons (c := '+') rfl, hnumber, Option.map_some, hyear]

/-- Year, month and day are read back from the text of a date. -/
theorem civil?_chars (d : Date) (rest : List Char) : civil? (d.chars ++ rest) = some (d.civil, rest) := by
  obtain ⟨hmonth, hmonth'⟩ := Civil.month_range d.number
  obtain ⟨hday, hday'⟩ := Civil.day_range d.number
  have hm : (d.civil.month.natAbs : Int) = d.civil.month := Int.natAbs_of_nonneg (Int.le_trans (by decide) hmonth)
  have hd : (d.civil.day.natAbs : Int) = d.civil.day := Int.natAbs_of_nonneg (Int.le_trans (by decide) hday)
  have hm_lt : d.civil.month.natAbs < 100 := by
    unfold civil
    omega
  have hd_lt : d.civil.day.natAbs < 100 := by
    unfold civil
    omega
  have hhyphen : NoDigitAhead ('-' :: (paddedText 2 d.civil.month.natAbs ++
      '-' :: (paddedText 2 d.civil.day.natAbs ++ rest))) := noDigitAhead_cons.2 (by decide)
  simp only [chars, civilText, List.append_assoc, List.cons_append, civil?, year?_yearText hhyphen,
    mark?_cons (c := '-') rfl, pair?_paddedText hm_lt, pair?_paddedText hd_lt, Option.bind_eq_bind, Option.bind_some,
    hm, hd]

/-- A date is read back from its text. -/
theorem read?_text (d : Date) : read? d.text = some d := by
  have hcivil := civil?_chars d []
  rw [List.append_nil] at hcivil
  simp [read?, text, hcivil, skipBlanks, ofCivil?_civil]

end SupplyRisk.Date
