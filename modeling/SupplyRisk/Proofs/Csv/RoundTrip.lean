import SupplyRisk.Csv.Reader
import SupplyRisk.Csv.Writer

/-!
# Reading back written rows

Rows are read back field by field as they were written, whatever characters their fields hold (`read_text`).  An empty
field may not be the first one of a row, since a row of nothing else would be an empty line, which is skipped; and the
first character of all may not be a byte order mark.
-/

namespace SupplyRisk.Csv

theorem run_cons (place : Place) (p : Progress) (c : Char) (cs : List Char) :
    run place p (c :: cs) = run (step place p c).1 (step place p c).2 cs := by
  cases place <;> rfl

variable {rows : List (List (List Char))} {fields : List (List Char)}

/-! ## The characters of a field -/

theorem stepPlain_of_not_needsQuotes {c : Char} (hc : needsQuotes c = false) (p : Progress) :
    stepPlain p c = (.plain, p.push c) := by
  simp only [needsQuotes, Bool.or_eq_false_iff, decide_eq_false_iff_not] at hc
  obtain ⟨⟨⟨hcomma, -⟩, hfeed⟩, hreturn⟩ := hc
  simp [stepPlain, isLineEnd, hcomma, hfeed, hreturn]

/-- Without quotes a field grows character by character. -/
theorem run_plain {field : List Char} (hfield : ∀ c ∈ field, needsQuotes c = false) (current rest : List Char) :
    run .plain ⟨rows, fields, current⟩ (field ++ rest) = run .plain ⟨rows, fields, field.reverse ++ current⟩ rest := by
  induction field generalizing current with
  | nil => rfl
  | cons c cs ih =>
      have hc := stepPlain_of_not_needsQuotes (hfield c (by simp)) ⟨rows, fields, current⟩
      rw [List.cons_append, run_cons, step, hc, Progress.push, ih fun d hd => hfield d (by simp [hd])]
      simp

/-- In quotes any character belongs to the field, a quote being written twice. -/
theorem run_quoted (field current rest : List Char) :
    run .quoted ⟨rows, fields, current⟩ (doubled field ++ '"' :: rest) =
      run .quote ⟨rows, fields, field.reverse ++ current⟩ rest := by
  induction field generalizing current with
  | nil => rfl
  | cons c cs ih =>
      by_cases hquote : c = '"'
      · subst hquote
        have hstep : run .quoted ⟨rows, fields, current⟩ (doubled ('"' :: cs) ++ '"' :: rest) =
            run .quoted ⟨rows, fields, '"' :: current⟩ (doubled cs ++ '"' :: rest) := by
          simp [doubled, run_cons, step, Progress.push]
        rw [hstep, ih]
        simp
      · have hstep : run .quoted ⟨rows, fields, current⟩ (doubled (c :: cs) ++ '"' :: rest) =
            run .quoted ⟨rows, fields, c :: current⟩ (doubled cs ++ '"' :: rest) := by
          simp [doubled, hquote, run_cons, step, Progress.push]
        rw [hstep, ih]
        simp

/-- Where a field can end. -/
def Place.Ends (place : Place) : Prop := place = .field ∨ place = .plain ∨ place = .quote

theorem run_comma {place : Place} (hplace : place.Ends) (p : Progress) (rest : List Char) :
    run place p (',' :: rest) = run .field p.endField rest := by
  rcases hplace with rfl | rfl | rfl <;> simp [run_cons, step, stepField, stepPlain]

theorem run_feed {place : Place} (hplace : place.Ends) (p : Progress) (rest : List Char) :
    run place p ('\n' :: rest) = run .row p.endRow rest := by
  rcases hplace with rfl | rfl | rfl <;> simp [run_cons, step, stepField, stepPlain, isLineEnd]

/-- After the text of a field the reader holds the field and waits for its end. -/
theorem exists_run_fieldText (rows : List (List (List Char))) (fields : List (List Char)) (field : List Char) :
    ∃ place, place.Ends ∧ ∀ rest, run .field ⟨rows, fields, []⟩ (fieldText field ++ rest) =
      run place ⟨rows, fields, field.reverse⟩ rest := by
  by_cases hquotes : field.any needsQuotes = true
  · refine ⟨.quote, .inr (.inr rfl), fun rest => ?_⟩
    have hopen : run .field ⟨rows, fields, []⟩ ('"' :: (doubled field ++ '"' :: rest)) =
        run .quoted ⟨rows, fields, []⟩ (doubled field ++ '"' :: rest) := by
      simp [run_cons, step, stepField]
    rw [fieldText, if_pos hquotes, List.cons_append, List.cons_append, List.append_assoc, List.singleton_append, hopen,
      run_quoted, List.append_nil]
  · have hplain : ∀ c ∈ field, needsQuotes c = false := by simpa using hquotes
    cases field with
    | nil => exact ⟨.field, .inl rfl, fun rest => rfl⟩
    | cons c cs =>
        refine ⟨.plain, .inr (.inl rfl), fun rest => ?_⟩
        have hc : needsQuotes c = false := hplain c (by simp)
        have hquote : c ≠ '"' := by
          rintro rfl
          cases hc
        have hfirst : run .field ⟨rows, fields, []⟩ (c :: (cs ++ rest)) = run .plain ⟨rows, fields, [c]⟩ (cs ++ rest) := by
          rw [run_cons, step, stepField, if_neg hquote, stepPlain_of_not_needsQuotes hc, Progress.push]
        rw [fieldText, if_neg hquotes, List.cons_append, hfirst, run_plain fun d hd => hplain d (by simp [hd])]
        simp

/-! ## Rows -/

theorem run_fields (field : List Char) (more : List (List Char)) (rest : List Char) :
    run .field ⟨rows, fields, []⟩ (List.intercalate [','] ((field :: more).map fieldText) ++ '\n' :: rest) =
      run .row ⟨(fields.reverse ++ field :: more) :: rows, [], []⟩ rest := by
  -- The fields are read from the left, and each read one is kept in front of those before it.
  induction more generalizing field fields with
  | nil =>
      obtain ⟨place, hplace, hrun⟩ := exists_run_fieldText rows fields field
      rw [List.map_singleton, List.intercalate_singleton, hrun, run_feed hplace]
      simp [Progress.endRow]
  | cons next more ih =>
      obtain ⟨place, hplace, hrun⟩ := exists_run_fieldText rows fields field
      have htext : List.intercalate [','] ((field :: next :: more).map fieldText) ++ '\n' :: rest =
          fieldText field ++ ',' :: (List.intercalate [','] ((next :: more).map fieldText) ++ '\n' :: rest) := by
        simp [List.intercalate_cons_cons]
      have hfield : Progress.endField ⟨rows, fields, field.reverse⟩ = ⟨rows, field :: fields, []⟩ := by
        simp [Progress.endField]
      rw [htext, hrun, run_comma hplace, hfield, ih]
      simp

/-- A row that can be written: its first field is not empty. -/
def Sound (row : List (List Char)) : Prop := ∃ c cs more, row = (c :: cs) :: more

/-- A row whose first field is not empty does not start with a line end. -/
theorem run_row_eq_field (c : Char) (cs : List Char) (rest : List Char) (p : Progress) :
    run .row p (fieldText (c :: cs) ++ rest) = run .field p (fieldText (c :: cs) ++ rest) := by
  by_cases hquotes : (c :: cs).any needsQuotes = true
  · rw [fieldText, if_pos hquotes]
    rfl
  · have hc : needsQuotes c = false := by
      have hall : ∀ d ∈ c :: cs, needsQuotes d = false := by simpa using hquotes
      exact hall c (by simp)
    have hend : isLineEnd c = false := by
      simp only [needsQuotes, Bool.or_eq_false_iff, decide_eq_false_iff_not] at hc
      simp [isLineEnd, hc]
    rw [fieldText, if_neg hquotes, List.cons_append, run_cons, run_cons, step, step, hend]
    rfl

theorem run_rowText {row : List (List Char)} (hrow : Sound row) (rest : List Char) :
    run .row ⟨rows, [], []⟩ (rowText row ++ rest) = run .row ⟨row :: rows, [], []⟩ rest := by
  obtain ⟨c, cs, more, rfl⟩ := hrow
  have hstart : ∃ behind, List.intercalate [','] (((c :: cs) :: more).map fieldText) ++ '\n' :: rest =
      fieldText (c :: cs) ++ behind := by
    cases more with
    | nil => exact ⟨'\n' :: rest, by simp⟩
    | cons next more =>
        exact ⟨',' :: (List.intercalate [','] ((next :: more).map fieldText) ++ '\n' :: rest),
          by simp [List.intercalate_cons_cons]⟩
  obtain ⟨behind, hbehind⟩ := hstart
  have hfields := @run_fields rows [] (c :: cs) more rest
  rw [rowText, List.append_assoc, List.singleton_append, hbehind, run_row_eq_field, ← hbehind, hfields]
  rfl

/-- **Reading what was written.**  Rows are read back with all their fields. -/
theorem read_text {table : List (List (List Char))} (hsound : ∀ row ∈ table, Sound row)
    (hmark : withoutMark (text table) = text table) : read (text table) = table := by
  have hrun (before : List (List (List Char))) : run .row ⟨before, [], []⟩ (text table) = before.reverse ++ table := by
    clear hmark
    induction table generalizing before with
    | nil => simp [text, run, Progress.finish]
    | cons row table ih =>
        have htail := ih (fun r hr => hsound r (by simp [hr])) (row :: before)
        rw [text, List.flatMap_cons, run_rowText (hsound row (by simp)), ← text, htail]
        simp
  rw [read, hmark, hrun, List.reverse_nil, List.nil_append]

end SupplyRisk.Csv
