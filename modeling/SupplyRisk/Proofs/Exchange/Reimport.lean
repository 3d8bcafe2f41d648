import SupplyRisk.Proofs.Command.InPlace
import SupplyRisk.Proofs.Exchange.Threshold

/-!
# Importing what was exported

An export can be imported into the store that it comes from (`import_of_export`).  Every row is accepted, since it
asks for the threshold that is already there.  Parts stay as they are; the records of suppliers are saved once more,
so that their versions go up.
-/

namespace SupplyRisk

open Ranked (rank)

/-- An assessed record, saved once more as it is. -/
def SupplierRisk.reimported (r : SupplierRisk) : SupplierRisk :=
  if r.lastAssessment.isSome then { r with version := r.version + 1 } else r

theorem SupplierRisk.rank_reimported (r : SupplierRisk) : rank r.reimported = rank r := by
  unfold reimported
  split <;> rfl

/-- The store whose assessed suppliers' records were saved once more. -/
def Store.reimported (s : Store) : Store :=
  { s with supplierRisks := s.supplierRisks.mapRows SupplierRisk.reimported SupplierRisk.rank_reimported }

/-! ## Rows that are accepted -/

variable {s t : Store}

/-- An accepted row is counted, and the rows behind it are applied to what it left. -/
theorem run_applyThresholds_of_accepted {row : ThresholdRecord}
    (haccept : row.apply.run (.plain s) = (.ok (), .plain t)) (report : ImportReport) (rows : List ThresholdRecord) :
    (applyThresholds report (row :: rows)).run (.plain s) =
      (applyThresholds { report with applied := report.applied + 1 } rows).run (.plain t) := by
  rcases run_applyThresholds_cons report row rows (.plain s) with ⟨result, hresult, hrun⟩ | ⟨g, hword, -⟩
  · rw [haccept] at hresult hrun
    cases result with
    | ok u => exact hrun
    | error e => cases hresult
  · rw [haccept] at hword
    cases hword

/-! ## Suppliers -/

theorem SupplierRisk.setAlertThreshold_self {r : SupplierRisk} (hcheck : r.check = .ok ()) :
    r.setAlertThreshold r.alertThreshold.toNat = .ok r := by
  obtain ⟨value, hvalue, -⟩ := bind_eq_ok_iff.1 hcheck
  have hself : value = r.alertThreshold := by
    unfold checkPercentage at hvalue
    split at hvalue
    · cases hvalue
      simp
    · cases hvalue
  rw [setAlertThreshold, hvalue, hself]
  rfl

/-- The store holds the record, which is assessed and sound, and can be saved once more. -/
structure Store.Keeps (s : Store) (r : SupplierRisk) : Prop where
  found : s.supplierRisks.find? (rank r) = some r
  assessed : r.lastAssessment.isSome
  sound : r.check = .ok ()
  next : Word.hasNext r.version = true

/-- The store with a supplier's record saved once more. -/
def Store.saveAgain (s : Store) (r : SupplierRisk) : Store :=
  { s with supplierRisks := s.supplierRisks.insert r.reimported }

theorem run_apply_ofSupplier (suppliers : List Supplier) (s : Store) (r : SupplierRisk) (h : s.Keeps r) :
    (ExportRecord.ofSupplier suppliers r).toThreshold.apply.run (.plain s) = (.ok (), .plain (s.saveAgain r)) := by
  have happly : (ExportRecord.ofSupplier suppliers r).toThreshold.apply =
      (setAlertThreshold r.supplier r.alertThreshold.toNat >>= fun _ => pure ()) := by
    simp [ExportRecord.ofSupplier, ExportRecord.toThreshold, ThresholdRecord.apply, ThresholdRecord.entity,
      EntityRef.ofKind]
  -- The record is read, given the threshold that it has, and saved at the version that was read.
  have hread : s.perform (.supplierRisk r.supplier standardAlertThreshold) = .ok (r, s) := by
    have hfound : s.supplierRisks.find? r.supplier.value.toNat = some r := h.found
    show s.supplierRisk r.supplier standardAlertThreshold = _
    rw [Store.supplierRisk, hfound]
  have hsaved : r.reimported = { r with version := r.version + 1 } := if_pos h.assessed
  have hsave : s.perform (.saveSupplierRisk r) = .ok (r.reimported, s.saveAgain r) := by
    refine Store.saveSupplierRisk_eq_ok_iff.2 ⟨h.sound, ?_, hsaved, rfl⟩
    show ((s.supplierRisks.find? (rank r)).map (·.version)).getD 0 = r.version
    rw [h.found]
    rfl
  have hset : (setAlertThreshold r.supplier r.alertThreshold.toNat).run (.plain s) =
      (.ok r.reimported, .plain (s.saveAgain r)) := by
    rw [setAlertThreshold, Script.run_bind_of_ok (Script.run_ask_of_perform rfl hread),
      r.setAlertThreshold_self h.sound]
    exact Script.run_ask_of_perform h.next hsave
  rw [happly, Script.run_bind_of_ok hset]
  rfl

theorem Store.Keeps.saveAgain {r r' : SupplierRisk} (hrank : rank r < rank r') (h : s.Keeps r') :
    (s.saveAgain r).Keeps r' where
  found := by
    have hne : rank r.reimported ≠ rank r' := by
      rw [r.rank_reimported]
      omega
    rw [Store.saveAgain, Roster.find?_insert, if_neg hne, h.found]
  assessed := h.assessed
  sound := h.sound
  next := h.next

theorem Store.foldl_saveAgain (s : Store) (rs : List SupplierRisk) :
    rs.foldl Store.saveAgain s =
      { s with supplierRisks := (rs.map SupplierRisk.reimported).foldl Roster.insert s.supplierRisks } := by
  induction rs generalizing s with
  | nil => rfl
  | cons r rs ih => exact ih (s.saveAgain r)

theorem Store.foldl_saveAgain_assessed (s : Store) :
    (s.supplierRisks.rows.filter (·.lastAssessment.isSome)).foldl Store.saveAgain s = s.reimported := by
  rw [foldl_saveAgain, Roster.foldl_insert_map SupplierRisk.rank_reimported]
  · rfl
  · exact fun r hr => (List.mem_filter.1 hr).1
  · intro r hr hother
    exact if_neg fun hassessed => hother (List.mem_filter.2 ⟨hr, hassessed⟩)

/-- The rows of suppliers save their records one after the other; none is in the way of another. -/
theorem run_supplierRows (suppliers : List Supplier) {rs : List SupplierRisk} (hasc : Ascending rs)
    (hkeeps : ∀ r ∈ rs, s.Keeps r) (report : ImportReport) (rows : List ThresholdRecord) :
    (applyThresholds report (rs.map (fun r => (ExportRecord.ofSupplier suppliers r).toThreshold) ++ rows)).run (.plain s) =
      (applyThresholds { report with applied := report.applied + rs.length } rows).run
        (.plain (rs.foldl Store.saveAgain s)) := by
  induction rs generalizing s report with
  | nil => rfl
  | cons r rs ih =>
      obtain ⟨hfirst, hrest⟩ := List.pairwise_cons.1 hasc
      have haccept := run_apply_ofSupplier suppliers s r (hkeeps r (by simp))
      have hlater : ∀ r' ∈ rs, (s.saveAgain r).Keeps r' := fun r' hr' =>
        (hkeeps r' (by simp [hr'])).saveAgain (hfirst r' hr')
      have hcount : report.applied + 1 + rs.length = report.applied + (rs.length + 1) := by omega
      rw [List.map_cons, List.cons_append, run_applyThresholds_of_accepted haccept, ih hrest hlater, List.foldl_cons,
        List.length_cons, ← hcount]

/-! ## Parts -/

theorem ThresholdRecord.stockThreshold_toNat (n : UInt32) : stockThreshold (n.toNat : Int) = .ok n := by
  have hlt : (n.toNat : Int) < (Word.count32 : Nat) := Int.ofNat_lt.2 n.toNat_lt
  rw [stockThreshold, if_pos ⟨Int.natCast_nonneg _, hlt⟩, Int.toNat_natCast, UInt32.ofNat_toNat]

/-- A part with its own threshold is the part. -/
theorem Store.setPartStockThreshold_self {id : PartId} {part : Part} (hfind : s.parts.find? id.value.toNat = some part) :
    s.setPartStockThreshold id part.lowStockThreshold = .ok s := by
  have hself : s.addPart { part with lowStockThreshold := part.lowStockThreshold } = s := by
    show { s with parts := s.parts.insert part } = s
    rw [Roster.insert_of_mem (Roster.find?_eq_some_iff.1 hfind).1]
  rw [setPartStockThreshold, hfind]
  exact congrArg Except.ok hself

theorem Store.find?_parts_rows (s : Store) (id : PartId) :
    s.parts.rows.find? (fun p => p.id = id) = s.parts.find? id.value.toNat := by
  refine congrArg (fun test => s.parts.rows.find? test) (funext fun p => ?_)
  exact Bool.eq_iff_iff.2 (by simp [rank, PartId.toNat_inj])

theorem run_apply_ofPart (s : Store) {r : PartRisk} (hstored : s.parts.contains r.part.value.toNat) :
    (ExportRecord.ofPart s.parts.rows r).toThreshold.apply.run (.plain s) = (.ok (), .plain s) := by
  obtain ⟨part, hpart⟩ := Roster.contains_iff.1 hstored
  have hset : s.perform (.setPartStockThreshold r.part part.lowStockThreshold) = .ok ((), s) := by
    show (s.setPartStockThreshold r.part part.lowStockThreshold).map _ = _
    rw [Store.setPartStockThreshold_self hpart]
    rfl
  have hask := Script.run_ask_of_perform rfl hset
  have hrow : (ExportRecord.ofPart s.parts.rows r).toThreshold =
      ⟨.part, r.part.value, part.lowStockThreshold.map fun n => (n.toNat : Int)⟩ := by
    rw [ExportRecord.ofPart, s.find?_parts_rows, hpart]
    rfl
  rw [hrow, ThresholdRecord.apply]
  cases hthreshold : part.lowStockThreshold with
  | none =>
      rw [hthreshold] at hask
      exact hask
  | some n =>
      rw [hthreshold] at hask
      show (Script.ofExcept (ThresholdRecord.stockThreshold (n.toNat : Int)) >>= fun threshold =>
        Script.ask (.setPartStockThreshold r.part (some threshold))).run (.plain s) = _
      rw [ThresholdRecord.stockThreshold_toNat]
      exact hask

/-- The rows of parts leave the store as it is. -/
theorem run_partRows (s : Store) {rs : List PartRisk} (hstored : ∀ r ∈ rs, s.parts.contains r.part.value.toNat)
    (report : ImportReport) :
    (applyThresholds report (rs.map fun r => (ExportRecord.ofPart s.parts.rows r).toThreshold)).run (.plain s) =
      (.ok { report with applied := report.applied + rs.length }, .plain s) := by
  induction rs generalizing report with
  | nil => rfl
  | cons r rs ih =>
      have haccept := run_apply_ofPart s (hstored r (by simp))
      have hcount : report.applied + 1 + rs.length = report.applied + (rs.length + 1) := by omega
      rw [List.map_cons, run_applyThresholds_of_accepted haccept, ih fun r' hr' => hstored r' (by simp [hr']),
        List.length_cons, ← hcount]

/-! ## All rows -/

/-- The export of a store: its assessed suppliers and parts. -/
def Store.exported (s : Store) : List ExportRecord :=
  (s.supplierRisks.rows.filter (·.lastAssessment.isSome)).map (ExportRecord.ofSupplier s.suppliers.rows) ++
    (s.partRisks.rows.filter (·.lastAssessment.isSome)).map (ExportRecord.ofPart s.parts.rows)

theorem ExportRecord.run_collect (s : Store) : collect.run (.plain s) = (.ok s.exported, .plain s) := rfl

theorem Store.length_exported (s : Store) :
    s.exported.length = s.supplierRisks.rows.countP (·.lastAssessment.isSome) +
      s.partRisks.rows.countP (·.lastAssessment.isSome) := by
  rw [exported, List.length_append, List.length_map, List.length_map, List.countP_eq_length_filter,
    List.countP_eq_length_filter]

/-- All rows of the store's own export are accepted. -/
theorem run_applyThresholds_exported (s : Store)
    (hsuppliers : ∀ r ∈ s.supplierRisks.rows, r.lastAssessment.isSome →
      r.check = .ok () ∧ Word.hasNext r.version = true)
    (hparts : ∀ r ∈ s.partRisks.rows, r.lastAssessment.isSome → s.parts.contains r.part.value.toNat) :
    (applyThresholds {} (s.exported.map ExportRecord.toThreshold)).run (.plain s) =
      (.ok { applied := s.exported.length, failures := [] }, .plain s.reimported) := by
  have hkeeps : ∀ r ∈ s.supplierRisks.rows.filter (·.lastAssessment.isSome), s.Keeps r := by
    intro r hr
    obtain ⟨hmem, hassessed⟩ := List.mem_filter.1 hr
    exact ⟨Roster.find?_eq_some_iff.2 ⟨hmem, rfl⟩, hassessed, (hsuppliers r hmem hassessed).1,
      (hsuppliers r hmem hassessed).2⟩
  have hstored : ∀ r ∈ s.partRisks.rows.filter (·.lastAssessment.isSome),
      s.reimported.parts.contains r.part.value.toNat := by
    intro r hr
    obtain ⟨hmem, hassessed⟩ := List.mem_filter.1 hr
    exact hparts r hmem hassessed
  have hsupplierRows := run_supplierRows s.suppliers.rows (s.supplierRisks.ascending.filter _) hkeeps {}
    ((s.partRisks.rows.filter (·.lastAssessment.isSome)).map fun r =>
      (ExportRecord.ofPart s.parts.rows r).toThreshold)
  -- The rows of parts meet the store that the rows of suppliers leave, which has the same parts.
  have hpartRows := run_partRows s.reimported hstored
    { applied := 0 + (s.supplierRisks.rows.filter (·.lastAssessment.isSome)).length }
  rw [Store.foldl_saveAgain_assessed] at hsupplierRows
  have hrun := hsupplierRows.trans hpartRows
  rw [Nat.zero_add] at hrun
  rw [Store.exported, List.map_append, List.map_map, List.map_map, List.length_append, List.length_map, List.length_map]
  exact hrun

/-- **Importing an export.**  The export has a record for every assessed supplier and part, and the store accepts every
row of it, written in either format.  Afterwards the records of the assessed suppliers are one version further, and all
else is as it was. -/
theorem import_of_export (s : Store)
    (hsuppliers : ∀ r ∈ s.supplierRisks.rows, r.lastAssessment.isSome →
      r.check = .ok () ∧ Word.hasNext r.version = true)
    (hparts : ∀ r ∈ s.partRisks.rows, r.lastAssessment.isSome → s.parts.contains r.part.value.toNat)
    (format : ThresholdFormat) :
    ∃ records rows, ExportRecord.collect.run (.plain s) = (.ok records, .plain s) ∧
      records.length = s.supplierRisks.rows.countP (·.lastAssessment.isSome) +
        s.partRisks.rows.countP (·.lastAssessment.isSome) ∧
      ThresholdRecord.parse format (ExportRecord.render format.ofExport records) = .ok rows ∧
      (applyThresholds {} rows).run (.plain s) =
        (.ok { applied := records.length, failures := [] }, .plain s.reimported) :=
  ⟨s.exported, s.exported.map ExportRecord.toThreshold, ExportRecord.run_collect s, s.length_exported,
    ThresholdRecord.parse_render format s.exported, run_applyThresholds_exported s hsuppliers hparts⟩

/-- An assessed supplier whose code has blanks, a comma, a quote and a line end, and an assessed part without
threshold. -/
def awkwardStore : Store :=
  { Store.empty with
    suppliers := .ofList [⟨⟨1⟩, " a,\"b\n ", "Acme", true, none⟩]
    parts := .ofList [⟨⟨7⟩, "", "Pump", none, none⟩]
    supplierRisks := .ofList [{ SupplierRisk.new ⟨1⟩ 55 with lastAssessment := some Store.sampleDay, version := 3 }]
    partRisks := .ofList [{ PartRisk.new ⟨7⟩ with lastAssessment := some Store.sampleDay }] }

theorem awkward_store_is_imported :
    (∀ r ∈ awkwardStore.supplierRisks.rows, r.lastAssessment.isSome →
        r.check = .ok () ∧ Word.hasNext r.version = true) ∧
      (∀ r ∈ awkwardStore.partRisks.rows, r.lastAssessment.isSome →
        awkwardStore.parts.contains r.part.value.toNat) ∧
      awkwardStore.reimported.supplierRisks.rows.map (·.version) = [4] ∧
      ∃ records rows, ExportRecord.collect.run (.plain awkwardStore) = (.ok records, .plain awkwardStore) ∧
        records.length = 2 ∧
        ThresholdRecord.parse .csv (ExportRecord.render .csv records) = .ok rows ∧
        (applyThresholds {} rows).run (.plain awkwardStore) =
          (.ok { applied := records.length, failures := [] }, .plain awkwardStore.reimported) := by
  have hsuppliers : ∀ r ∈ awkwardStore.supplierRisks.rows, r.lastAssessment.isSome →
      r.check = .ok () ∧ Word.hasNext r.version = true := by decide +kernel
  have hparts : ∀ r ∈ awkwardStore.partRisks.rows, r.lastAssessment.isSome →
      awkwardStore.parts.contains r.part.value.toNat := by decide +kernel
  exact ⟨hsuppliers, hparts, by decide +kernel, import_of_export awkwardStore hsuppliers hparts .csv⟩

end SupplyRisk
