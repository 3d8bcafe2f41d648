import SupplyRisk.Exchange.Export
import SupplyRisk.Exchange.Threshold
import SupplyRisk.Proofs.Calendar.Date
import SupplyRisk.Proofs.Csv.RoundTrip
import SupplyRisk.Proofs.Record.Written

/-!
# Reading thresholds from exports

An export can be read as a file of thresholds, in rows and in JSON: of every record its kind, number and threshold are
read and all else is passed over (`parse_render`).  Codes may hold any characters; a record without threshold is read
as one that clears it.
-/

namespace SupplyRisk

open Decimal

/-- The format in which exports are written to be read as thresholds. -/
def ThresholdFormat.ofExport : ThresholdFormat → ExportFormat
  | json => .json
  | csv => .csv

/-- What an import takes from an exported record. -/
def ExportRecord.toThreshold (r : ExportRecord) : ThresholdRecord :=
  ⟨r.kind, r.id, r.threshold.map (fun n => (n.toNat : Int))⟩

/-! ## Numbers in fields -/

namespace ThresholdRecord

theorem digitValue?_char (d : Digit) : Text.digitValue? 10 d.char = some d.val := by
  revert d
  decide

theorem digitsIn?_map_char (d : Digit) (ds : List Digit) :
    digitsIn? 10 ((d :: ds).map Digit.char) = some (ofDigits 0 (d :: ds)) := by
  have hfold (start : Nat) (es : List Digit) :
      (es.map Digit.char).foldlM (fun n c => (Text.digitValue? 10 c).map (n * 10 + ·)) start =
        some (ofDigits start es) := by
    induction es generalizing start with
    | nil => rfl
    | cons e es ih =>
        simp only [List.map_cons, List.foldlM_cons, digitValue?_char, Option.map_some, Option.bind_eq_bind,
          Option.bind_some, ih, ofDigits_cons, Nat.mul_comm start 10]
  rw [digitsIn?, hfold]
  rfl

theorem natText_cases (n : Nat) :
    ∃ d ds, natText n = (d :: ds).map Digit.char ∧ ofDigits 0 (d :: ds) = n := by
  obtain ⟨d, ds, hdigits, -⟩ := digits_cases n
  exact ⟨d, ds, by rw [natText, hdigits], by rw [← hdigits, ofDigits_digits]⟩

theorem digitsIn?_natText (n : Nat) : digitsIn? 10 (natText n) = some n := by
  obtain ⟨d, ds, htext, hvalue⟩ := natText_cases n
  rw [htext, digitsIn?_map_char, hvalue]

/-- A number does not start with a sign. -/
theorem natText_ne_cons {c : Char} (hc : digit? c = none) (n : Nat) (cs : List Char) : natText n ≠ c :: cs := by
  obtain ⟨d, ds, htext, -⟩ := natText_cases n
  intro heq
  rw [htext] at heq
  exact Digit.char_ne_of_digit?_eq_none hc d (List.cons.inj heq).1

/-- The mark of hexadecimal digits does not stand in a number, not even behind a zero. -/
theorem natText_ne_hex (n : Nat) (cs : List Char) : natText n ≠ '0' :: 'x' :: cs := by
  obtain ⟨d, ds, htext, -⟩ := natText_cases n
  intro heq
  rw [htext] at heq
  have htail : ds.map Digit.char = 'x' :: cs := (List.cons.inj heq).2
  have hmark : 'x' ∈ ds.map Digit.char := by simp [htail]
  obtain ⟨e, -, he⟩ := List.mem_map.1 hmark
  exact Digit.char_ne_of_digit?_eq_none (by decide) e he

theorem fieldInt?_natText (n : Nat) : fieldInt? (natText n) = some (n : Int) := by
  unfold fieldInt?
  split
  · rename_i cs heq
    exact absurd heq (natText_ne_hex n cs)
  · unfold signed?
    split
    · rename_i cs heq
      exact absurd heq (natText_ne_cons (by decide) n cs)
    · rename_i cs heq
      exact absurd heq (natText_ne_cons (by decide) n cs)
    · rw [digitsIn?_natText]
      rfl

theorem isSigned_natText (n : Nat) : isSigned (natText n) = false := by
  unfold isSigned
  split
  · rename_i cs heq
    exact absurd heq (natText_ne_cons (by decide) n cs)
  · rename_i cs heq
    exact absurd heq (natText_ne_hex n ('-' :: cs))
  · rfl

theorem fieldId?_natText (n : UInt64) : fieldId? (natText n.toNat) = some n := by
  have hlt : (n.toNat : Int) < (Word.count64 : Nat) := Int.ofNat_lt.2 n.toNat_lt
  rw [fieldId?, isSigned_natText, if_neg (by decide), fieldInt?_natText, Option.bind_some, if_pos hlt, Int.toNat_natCast,
    UInt64.ofNat_toNat]

theorem fieldThreshold?_natText (n : UInt32) : fieldThreshold? (natText n.toNat) = some (some (n.toNat : Int)) := by
  have hempty : (natText n.toNat).isEmpty = false := by simp [natText, digits_ne_nil]
  rw [fieldThreshold?, hempty, if_neg (by decide), fieldInt?_natText, Option.bind_some,
    if_pos (Word.holdsSigned_of_lt n.toNat_lt)]

theorem trim_natText (n : Nat) : Text.trim (natText n) = natText n := by
  have hskip {es : List Digit} (hes : es ≠ []) : Text.skipBlanks (es.map Digit.char) = es.map Digit.char := by
    simpa using Date.skipBlanks_digits hes []
  have hne := digits_ne_nil n
  have hreverse : (digits n).reverse ≠ [] := by simpa using hne
  rw [Text.trim, natText, hskip hne, ← List.map_reverse, hskip hreverse, ← List.map_reverse, List.reverse_reverse]

/-! ## Rows -/

section Columns

variable (kind id code threshold score level : List Char)

theorem column?_kind : column? (ExportRecord.fieldNames.map String.toList) [kind, id, code, threshold, score, level]
    "kind" = some (some kind) := rfl

theorem column?_id : column? (ExportRecord.fieldNames.map String.toList) [kind, id, code, threshold, score, level]
    "id" = some (some id) := rfl

theorem column?_threshold : column? (ExportRecord.fieldNames.map String.toList)
    [kind, id, code, threshold, score, level] "threshold" = some (some threshold) := rfl

end Columns

theorem map_trim_csvFields (r : ExportRecord) :
    r.csvFields.map Text.trim =
      [r.kind.text.toList, natText r.id.toNat, Text.trim r.code.toList,
        (r.threshold.map fun n => natText n.toNat).getD [],
        Text.trim (Layout.exported.text r.score).toList, Text.trim r.level.text.toList] := by
  have hkind : Text.trim r.kind.text.toList = r.kind.text.toList := by cases r.kind <;> decide
  have hthreshold : Text.trim ((r.threshold.map fun n => natText n.toNat).getD []) =
      (r.threshold.map fun n => natText n.toNat).getD [] := by
    cases r.threshold with
    | none => rfl
    | some n => exact trim_natText n.toNat
  simp only [ExportRecord.csvFields, List.map_cons, List.map_nil, hkind, trim_natText, hthreshold]

/-- A row is read as its kind, number and threshold, whatever its other fields hold. -/
theorem ofRow?_csvFields (r : ExportRecord) :
    ofRow? (ExportRecord.fieldNames.map String.toList) (r.csvFields.map Text.trim) = some r.toThreshold := by
  have hthreshold : fieldThreshold? ((r.threshold.map fun n => natText n.toNat).getD []) =
      some (r.threshold.map fun n => (n.toNat : Int)) := by
    cases r.threshold with
    | none => rfl
    | some n => exact fieldThreshold?_natText n
  rw [map_trim_csvFields, ofRow?, if_neg (not_not_intro (by rfl)), column?_kind, column?_id, column?_threshold]
  simp only [Option.bind_eq_bind, Option.bind_some, Option.getD_some, fieldId?_natText, hthreshold, String.ofList_toList,
    EntityKind.ofText?_text]
  rfl

/-- A written record starts with its kind, so that its row is never empty. -/
theorem sound_csvFields (r : ExportRecord) : Csv.Sound r.csvFields := by
  have hkind : r.kind.text.toList ≠ [] := by cases r.kind <;> decide
  obtain ⟨c, cs, hcs⟩ := List.exists_cons_of_ne_nil hkind
  exact ⟨c, cs, _, congrArg (· :: _) hcs⟩

theorem mapM_ofRow?_csvFields (records : List ExportRecord) :
    ((records.map ExportRecord.csvFields).map fun row => row.map Text.trim).mapM
      (ofRow? (ExportRecord.fieldNames.map String.toList)) = some (records.map ExportRecord.toThreshold) := by
  induction records with
  | nil => rfl
  | cons r records ih =>
      rw [List.map_cons, List.map_cons, List.mapM_cons, ofRow?_csvFields, ih]
      rfl

/-- An export without records is an empty text, which has not even column names. -/
theorem parseCsv?_csvText (records : List ExportRecord) :
    parseCsv? (ExportRecord.csvText records) = some (records.map ExportRecord.toThreshold) := by
  cases records with
  | nil => rfl
  | cons r records =>
      -- The column names come first, and trimming leaves them as they are.
      have hsound : ∀ row ∈ ExportRecord.fieldNames.map String.toList :: (r :: records).map ExportRecord.csvFields,
          Csv.Sound row := by
        intro row hrow
        rcases List.mem_cons.1 hrow with rfl | hrow
        · exact ⟨'k', _, _, rfl⟩
        · obtain ⟨written, -, rfl⟩ := List.mem_map.1 hrow
          exact sound_csvFields written
      have hnames : (ExportRecord.fieldNames.map String.toList).map Text.trim =
          ExportRecord.fieldNames.map String.toList := by decide
      rw [parseCsv?, ExportRecord.csvText, if_neg (by simp), String.toList_ofList, Csv.read_text hsound rfl,
        List.map_cons, hnames]
      exact mapM_ofRow?_csvFields (r :: records)

/-! ## JSON -/

theorem read?_toJson (r : ExportRecord) : read? (r.toJson Json.real) = some r.toThreshold := by
  have hkind : Document.choiceOf? EntityKind.ofText? (Json.string r.kind.text) = some r.kind :=
    EntityKind.ofText?_text r.kind
  have hthreshold (n : UInt32) : Document.int64? (Json.nat n.toNat) = some (n.toNat : Int) := by
    rw [Document.int64?, Document.integer?_nat, Option.bind_some, if_pos (Word.holdsSigned_of_lt n.toNat_lt)]
  have hrecord : Document.record? ["kind", "id", "threshold"] (r.toJson Json.real) =
      some ⟨[("kind", .string r.kind.text), ("id", idJson r.id),
        ("threshold", .ofOption (fun n => .nat n.toNat) r.threshold)]⟩ := by rfl
  have hread : Fields.optional ⟨[("threshold", Json.ofOption (fun n => .nat n.toNat) r.threshold)]⟩ "threshold"
      Document.int64? = some (r.threshold.map fun n => (n.toNat : Int)) :=
    Fields.optional_cons_map hthreshold fun n => Document.isNull_nat n.toNat
  rw [read?, hrecord]
  simp -implicitDefEqProofs [↓Option.bind_eq_bind, hkind, hread, ExportRecord.toThreshold]

theorem legible_toJson (r : ExportRecord) : (r.toJson Json.real).legible = true := by
  simp [ExportRecord.toJson]

theorem read?_jsonText (records : List ExportRecord) :
    (Json.read? (ExportRecord.jsonText records)).bind (Document.list? read?) =
      some (records.map ExportRecord.toThreshold) := by
  have hlegible : (Json.ofList (ExportRecord.toJson Json.real) records).legible = true :=
    Json.legible_ofList legible_toJson records
  rw [ExportRecord.jsonText, Json.read?_pretty hlegible, Option.bind_some,
    Document.list?_ofList_map fun r _ => read?_toJson r]

/-- **Reading an export.**  The thresholds of all exported records are read, in their order. -/
theorem parse_render (format : ThresholdFormat) (records : List ExportRecord) :
    parse format (ExportRecord.render format.ofExport records) = .ok (records.map ExportRecord.toThreshold) := by
  cases format with
  | json => simp only [parse, ThresholdFormat.ofExport, ExportRecord.render, read?_jsonText]
  | csv => simp only [parse, ThresholdFormat.ofExport, ExportRecord.render, parseCsv?_csvText]

end ThresholdRecord

end SupplyRisk
