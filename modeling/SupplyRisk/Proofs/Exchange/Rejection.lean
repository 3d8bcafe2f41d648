import SupplyRisk.Proofs.Command.InPlace
import SupplyRisk.Proofs.Store.Inventory

/-!
# Rows that are refused

An import applies row by row what the store accepts.  A row that the store refuses changes nothing, with one exception:
the record of a supplier is read, and so created, before the range of its new threshold is checked.
`Store.afterRow_of_refused` says what a refused row leaves behind.  Such a record stands in nobody's way, so that all of
them can be thought of as created at the end (`refused_rows_leave_records`).
-/

namespace SupplyRisk

/-- The supplier for which a row asks a threshold that no supplier can have. -/
def ThresholdRecord.misranged? (row : ThresholdRecord) : Option SupplierId :=
  match row.entity, row.threshold with
  | .supplier id, some value => if 0 ≤ value ∧ value ≤ 100 then none else some id
  | _, _ => none

/-- The low-stock threshold that a row asks for; none clears it. -/
def ThresholdRecord.lowStock (row : ThresholdRecord) : Except RiskError (Option UInt32) :=
  match row.threshold with
  | none => .ok none
  | some value => (stockThreshold value).map some

/-- The record with another threshold, if that is one that can be saved. -/
def SupplierRisk.changed? (r : SupplierRisk) (value : Int) : Except RiskError SupplierRisk := do
  let changed ← r.setAlertThreshold value
  changed.check
  return changed

/-- The record with another threshold, as it is saved: there has to be a next version as well. -/
def SupplierRisk.rethresholded (r : SupplierRisk) (value : Int) : Except Halt SupplierRisk :=
  match r.changed? value with
  | .ok changed => if Word.hasNext r.version then .ok changed else .error .word
  | .error e => .error (.failure e)

namespace Store

/-- Whether the store accepts a row. -/
def accepts (s : Store) (row : ThresholdRecord) : Bool := (row.apply.run (.plain s)).1.isOk

/-- The store after a row, which it accepts or refuses. -/
def afterRow (s : Store) (row : ThresholdRecord) : Store := (row.apply.run (.plain s)).2.store

/-- The store after rows, one after the other. -/
def afterRows (s : Store) (rows : List ThresholdRecord) : Store := rows.foldl afterRow s

/-- The rows that are accepted when they are applied one after the other. -/
def acceptedRows (s : Store) : List ThresholdRecord → List ThresholdRecord
  | [] => []
  | row :: rows =>
      if s.accepts row then row :: (s.afterRow row).acceptedRows rows else (s.afterRow row).acceptedRows rows

/-- The store with a record of a supplier, created as an import creates it if there is none. -/
def withSupplier (s : Store) (id : SupplierId) : Store := s.withRisk standardAlertThreshold (.supplier id)

/-- A supplier's record can be read: it is there, or the supplier is known and gets one. -/
def CanRead (s : Store) (id : SupplierId) : Prop :=
  s.knows (.supplier id) = true ∨ (s.riskRecord? (.supplier id)).isSome = true

instance (s : Store) (id : SupplierId) : Decidable (s.CanRead id) :=
  inferInstanceAs (Decidable (_ ∨ _))

variable {s : Store} {id : SupplierId} {row : ThresholdRecord}

/-! ## Records of suppliers -/

/-- Records that are there are read from where they are. -/
theorem withSupplier_of_stored (hstored : (s.riskRecord? (.supplier id)).isSome = true) : s.withSupplier id = s := by
  obtain ⟨r, hr⟩ := Option.isSome_iff_exists.1 hstored
  exact withRisk_of_stored hr

theorem canRead_withSupplier (s : Store) (id other : SupplierId) :
    (s.withSupplier other).CanRead id ↔ s.CanRead id := by
  unfold CanRead withSupplier
  rw [knows_withRisk, withRisk]
  split
  · rename_i hother
    rw [riskRecord?_putRisk, entity_riskOrFresh]
    split
    · rename_i hsame
      simp [← hsame, hother]
    · rfl
  · rfl

theorem supplierRisk_of_canRead (hread : s.CanRead id) :
    ∃ record, record.supplier = id ∧ s.riskOrFresh standardAlertThreshold (.supplier id) = .supplier record ∧
      s.supplierRisk id standardAlertThreshold = .ok (record, s.withSupplier id) ∧
      (s.withSupplier id).riskRecord? (.supplier id) = some (.supplier record) := by
  by_cases hknown : s.knows (.supplier id) = true
  · obtain ⟨record, hid, hrecord, hanswer⟩ := supplierRisk_of_known hknown standardAlertThreshold
    exact ⟨record, hid, hrecord, hanswer, hrecord ▸ riskRecord?_withRisk hknown⟩
  · obtain ⟨record, hfind⟩ : ∃ record, s.supplierRisks.find? id.value.toNat = some record := by
      simpa [riskRecord?, Option.isSome_iff_exists] using hread.resolve_left hknown
    have hstored : s.riskRecord? (.supplier id) = some (.supplier record) := by
      rw [riskRecord?, hfind]
      rfl
    have hsame : s.withSupplier id = s := withSupplier_of_stored (by rw [hstored]; rfl)
    refine ⟨record, SupplierId.toNat_inj.1 (Roster.find?_eq_some_iff.1 hfind).2, riskOrFresh_of_stored hstored, ?_,
      hsame.symm ▸ hstored⟩
    simp only [supplierRisk, hfind, hsame]

theorem supplierRisk_of_not_canRead (hread : ¬ s.CanRead id) :
    s.supplierRisk id standardAlertThreshold = .error (.notFound (.supplier id)) ∧ s.withSupplier id = s := by
  obtain ⟨hunknown, habsent⟩ := not_or.1 hread
  have hcontains : s.suppliers.contains id.value.toNat = false := by simpa [knows] using hunknown
  have hfind : s.supplierRisks.find? id.value.toNat = none := by simpa [riskRecord?] using habsent
  exact ⟨by simp [supplierRisk, hfind, hcontains], withRisk_of_unknown (by simpa using hunknown)⟩

/-! ## Rows of suppliers -/

/-- A record at the stored version is saved if it passes its check and there is a next version. -/
theorem run_ask_saveSupplierRisk {r : SupplierRisk} (hversion : s.riskVersion (.supplier r.supplier) = r.version) :
    (Script.ask (.saveSupplierRisk r)).run (.plain s) =
      match r.check with
      | .ok _ =>
          if Word.hasNext r.version then
            (.ok { r with version := r.version + 1 }, .plain (s.putRisk (RiskRecord.supplier r).next))
          else (.error .word, .plain s)
      | .error e => (.error (.failure e), .plain s) := by
  cases hcheck : r.check with
  | error e =>
      have hsave : s.perform (.saveSupplierRisk r) = .error e := by
        show s.saveSupplierRisk r = _
        rw [saveSupplierRisk, hcheck]
        rfl
      rw [Script.run_ask_plain, hsave]
  | ok u =>
      have hsave : s.perform (.saveSupplierRisk r) = .ok (_, _) :=
        saveSupplierRisk_eq_ok_iff.2 ⟨hcheck, (riskVersion_supplier s _).symm.trans hversion, rfl, rfl⟩
      rw [Script.run_ask_plain, hsave]
      exact rfl

/-- A row for a supplier whose record can be read puts the changed record in its place, or leaves it as it was read. A
record that has no next version is given up. -/
theorem run_supplierRow {value : Int} (hentity : row.entity = .supplier id) (hthreshold : row.threshold = some value)
    (hread : s.CanRead id) :
    ∃ record : SupplierRisk, s.riskOrFresh standardAlertThreshold (.supplier id) = .supplier record ∧
      row.apply.run (.plain s) =
        match record.rethresholded value with
        | .ok changed => (.ok (), .plain (s.putRisk (RiskRecord.supplier changed).next))
        | .error cause => (.error cause, .plain (s.withSupplier id)) := by
  obtain ⟨record, hid, hrecord, hanswer, hstored⟩ := supplierRisk_of_canRead hread
  refine ⟨record, hrecord, ?_⟩
  have happly : row.apply = (setAlertThreshold id value >>= fun _ => pure ()) := by
    simp only [ThresholdRecord.apply, hentity, hthreshold]
  have hperform : s.perform (.supplierRisk id standardAlertThreshold) = .ok (record, s.withSupplier id) := hanswer
  rw [happly, setAlertThreshold, bind_assoc, Script.run_bind_of_ok (Script.run_ask_of_perform rfl hperform)]
  unfold SupplierRisk.rethresholded SupplierRisk.changed?
  cases hset : record.setAlertThreshold value with
  | error e => rfl
  | ok changed =>
      -- The changed record is still that of the supplier, at the version that was read.
      have hchanged : changed.supplier = id ∧ changed.version = record.version := by
        obtain ⟨v, -, rfl⟩ := map_eq_ok_iff.1 hset
        exact ⟨hid, rfl⟩
      have hversion : (s.withSupplier id).riskVersion (.supplier changed.supplier) = changed.version := by
        rw [riskVersion, hchanged.1, hstored, hchanged.2]
        rfl
      have hput : (s.withSupplier id).putRisk (RiskRecord.supplier changed).next =
          s.putRisk (RiskRecord.supplier changed).next :=
        putRisk_withRisk ((RiskRecord.entity_next _).trans (congrArg EntityRef.supplier hchanged.1))
      show (Script.ask (.saveSupplierRisk changed) >>= fun _ => pure ()).run (.plain (s.withSupplier id)) =
        match (match (changed.check >>= fun _ => pure changed) with
          | .ok changed => if Word.hasNext record.version then Except.ok changed else .error Halt.word
          | .error e => .error (.failure e)) with
        | .ok changed => (.ok (), .plain (s.putRisk (RiskRecord.supplier changed).next))
        | .error cause => (.error cause, .plain (s.withSupplier id))
      rw [Script.run_bind, run_ask_saveSupplierRisk hversion, hput, ← hchanged.2]
      cases changed.check with
      | error e => rfl
      | ok u =>
          dsimp only [bind, Except.bind, pure, Except.pure]
          by_cases hnext : Word.hasNext changed.version = true
          · simp only [if_pos hnext]
            rfl
          · simp only [if_neg hnext]

theorem run_supplierRow_of_not_canRead {value : Int} (hentity : row.entity = .supplier id)
    (hthreshold : row.threshold = some value) (hread : ¬ s.CanRead id) :
    row.apply.run (.plain s) = (.error (.failure (.notFound (.supplier id))), .plain s) := by
  have happly : row.apply = (setAlertThreshold id value >>= fun _ => pure ()) := by
    simp only [ThresholdRecord.apply, hentity, hthreshold]
  have hperform : s.perform (.supplierRisk id standardAlertThreshold) = .error (.notFound (.supplier id)) :=
    (supplierRisk_of_not_canRead hread).1
  have hask := Script.run_ask_plain (.supplierRisk id standardAlertThreshold) s
  rw [hperform] at hask
  rw [happly, setAlertThreshold, bind_assoc, Script.run_bind_of_error hask]

theorem run_emptySupplierRow (hentity : row.entity = .supplier id) (hthreshold : row.threshold = none) :
    row.apply.run (.plain s) =
      (.error (.failure (.validation "alert_threshold" "a supplier threshold is required")), .plain s) := by
  rw [ThresholdRecord.apply, hentity, hthreshold]
  rfl

/-! ## Rows of parts -/

/-- A row for a part sets its threshold, or leaves the store as it was. -/
theorem run_partRow {part : PartId} (hentity : row.entity = .part part) (s : Store) : row.apply.run (.plain s) =
    match row.lowStock.bind (s.setPartStockThreshold part) with
    | .ok t => (.ok (), .plain t)
    | .error e => (.error (.failure e), .plain s) := by
  have hask (threshold : Option UInt32) : (Script.ask (.setPartStockThreshold part threshold)).run (.plain s) =
      match s.setPartStockThreshold part threshold with
      | .ok t => (.ok (), .plain t)
      | .error e => (.error (.failure e), .plain s) := by
    have hperform : s.perform (.setPartStockThreshold part threshold) =
        (s.setPartStockThreshold part threshold).map ((), ·) := rfl
    rw [Script.run_ask_plain, hperform]
    cases s.setPartStockThreshold part threshold <;> rfl
  rw [ThresholdRecord.apply, ThresholdRecord.lowStock, hentity]
  cases row.threshold with
  | none => exact hask none
  | some value =>
      cases hvalue : ThresholdRecord.stockThreshold value with
      | error e =>
          simp only [hvalue]
          rfl
      | ok threshold =>
          simp only [hvalue]
          exact hask (some threshold)

/-! ## Refused rows -/

/-- A threshold out of range is refused by every record, one within the range by none that is fresh. -/
theorem changed?_of_misranged {value : Int} (hvalue : ¬ (0 ≤ value ∧ value ≤ 100)) (r : SupplierRisk) :
    ∃ e, r.changed? value = .error e := by
  refine ⟨.outOfRange "alert_threshold" value 0 100, ?_⟩
  rw [SupplierRisk.changed?, SupplierRisk.setAlertThreshold, checkPercentage, if_neg hvalue]
  rfl

theorem changed?_new {value : Int} (hvalue : 0 ≤ value ∧ value ≤ 100) (id : SupplierId) (threshold : UInt8) :
    ∃ changed, (SupplierRisk.new id threshold).changed? value = .ok changed := by
  have hword : 0 ≤ ((UInt8.ofNat value.toNat).toNat : Int) ∧ ((UInt8.ofNat value.toNat).toNat : Int) ≤ 100 := by
    have hlt : value.toNat % 2 ^ 8 = value.toNat := Nat.mod_eq_of_lt (by omega)
    rw [UInt8.toNat_ofNat', hlt]
    omega
  have hoverall : (0 ≤ (0 : Float) && (0 : Float) ≤ 100) = true := by decide +kernel
  refine ⟨{ SupplierRisk.new id threshold with alertThreshold := UInt8.ofNat value.toNat }, ?_⟩
  have hcheck : SupplierRisk.check { SupplierRisk.new id threshold with alertThreshold := UInt8.ofNat value.toNat } =
      .ok () := by
    rw [SupplierRisk.check, checkPercentage, if_pos hword]
    exact if_pos hoverall
  rw [SupplierRisk.changed?, SupplierRisk.setAlertThreshold, checkPercentage, if_pos hvalue]
  show (SupplierRisk.check _ >>= fun _ => pure _) = _
  rw [hcheck]
  rfl

theorem rethresholded_new {value : Int} (hvalue : 0 ≤ value ∧ value ≤ 100) (id : SupplierId) (threshold : UInt8) :
    ∃ changed, (SupplierRisk.new id threshold).rethresholded value = .ok changed := by
  obtain ⟨changed, hchanged⟩ := changed?_new hvalue id threshold
  refine ⟨changed, ?_⟩
  rw [SupplierRisk.rethresholded, hchanged]
  rfl

/-- What a refused row leaves behind: the record of a supplier whose threshold was out of range, and nothing else. -/
theorem afterRow_of_refused (hrefused : s.accepts row = false) :
    s.afterRow row = (row.misranged?.map s.withSupplier).getD s := by
  unfold accepts at hrefused
  unfold afterRow ThresholdRecord.misranged?
  cases hentity : row.entity with
  | part part =>
      rw [run_partRow hentity] at hrefused ⊢
      cases hset : row.lowStock.bind (s.setPartStockThreshold part) with
      | ok t =>
          rw [hset] at hrefused
          cases hrefused
      | error e => rfl
  | supplier id =>
      cases hthreshold : row.threshold with
      | none =>
          rw [run_emptySupplierRow hentity hthreshold]
          rfl
      | some value =>
          by_cases hread : s.CanRead id
          · obtain ⟨record, hrecord, hrun⟩ := run_supplierRow hentity hthreshold hread
            rw [hrun] at hrefused ⊢
            cases hchanged : record.rethresholded value with
            | ok changed =>
                rw [hchanged] at hrefused
                cases hrefused
            | error cause =>
                dsimp only
                split
                · -- The record does not pass its check or has no next version, so it is not a fresh one.
                  rename_i hvalue
                  refine withSupplier_of_stored (Option.isSome_iff_ne_none.2 fun habsent => ?_)
                  rw [riskOrFresh, habsent] at hrecord
                  cases hrecord
                  obtain ⟨changed, hok⟩ := rethresholded_new hvalue id standardAlertThreshold
                  rw [hok] at hchanged
                  cases hchanged
                · rfl
          · rw [run_supplierRow_of_not_canRead hentity hthreshold hread]
            dsimp only
            split
            · rfl
            · exact (supplierRisk_of_not_canRead hread).2.symm

theorem misranged?_of_accepted (haccept : s.accepts row = true) : row.misranged? = none := by
  unfold accepts at haccept
  unfold ThresholdRecord.misranged?
  cases hentity : row.entity with
  | part part => rfl
  | supplier id =>
      cases hthreshold : row.threshold with
      | none => rfl
      | some value =>
          by_cases hread : s.CanRead id
          · obtain ⟨record, -, hrun⟩ := run_supplierRow hentity hthreshold hread
            by_cases hvalue : 0 ≤ value ∧ value ≤ 100
            · exact if_pos hvalue
            · obtain ⟨e, herror⟩ := changed?_of_misranged hvalue record
              rw [hrun, SupplierRisk.rethresholded, herror] at haccept
              cases haccept
          · rw [run_supplierRow_of_not_canRead hentity hthreshold hread] at haccept
            cases haccept

/-! ## Records that are left behind -/

theorem addPart_withSupplier (s : Store) (id : SupplierId) (part : Part) :
    (s.withSupplier id).addPart part = (s.addPart part).withSupplier id := by
  have hput (r : RiskRecord) : (s.putRisk r).addPart part = (s.addPart part).putRisk r := by cases r <;> rfl
  have hknows : (s.addPart part).knows (.supplier id) = s.knows (.supplier id) := rfl
  have hrecord : (s.addPart part).riskOrFresh standardAlertThreshold (.supplier id) =
      s.riskOrFresh standardAlertThreshold (.supplier id) := rfl
  rw [withSupplier, withSupplier, withRisk, withRisk, hknows, hrecord]
  split
  · exact hput _
  · rfl

theorem setPartStockThreshold_withSupplier (s : Store) (id : SupplierId) (part : PartId) (threshold : Option UInt32) :
    (s.withSupplier id).setPartStockThreshold part threshold =
      (s.setPartStockThreshold part threshold).map (·.withSupplier id) := by
  have hparts : (s.withSupplier id).parts = s.parts :=
    congrArg Inventory.parts (inventory_withRisk s standardAlertThreshold (.supplier id))
  rw [setPartStockThreshold, setPartStockThreshold, hparts]
  cases s.parts.find? part.value.toNat with
  | none => rfl
  | some stored => exact congrArg Except.ok (addPart_withSupplier s id _)

/-- A record that was left behind changes nothing about later rows, nor do they about it. -/
theorem run_row_withSupplier (s : Store) (id : SupplierId) (row : ThresholdRecord) :
    row.apply.run (.plain (s.withSupplier id)) =
      ((row.apply.run (.plain s)).1, .plain ((s.afterRow row).withSupplier id)) := by
  unfold afterRow
  cases hentity : row.entity with
  | part part =>
      rw [run_partRow hentity, run_partRow hentity]
      cases row.lowStock with
      | error e => rfl
      | ok threshold =>
          simp only [Except.bind, setPartStockThreshold_withSupplier]
          cases s.setPartStockThreshold part threshold <;> rfl
  | supplier other =>
      cases hthreshold : row.threshold with
      | none => rw [run_emptySupplierRow hentity hthreshold, run_emptySupplierRow hentity hthreshold]; rfl
      | some value =>
          by_cases hread : s.CanRead other
          · obtain ⟨record, hrecord, hrun⟩ := run_supplierRow hentity hthreshold hread
            obtain ⟨record', hrecord', hrun'⟩ :=
              run_supplierRow hentity hthreshold ((canRead_withSupplier s other id).2 hread)
            -- Both times the same record is read.
            rw [withSupplier, riskOrFresh_withRisk, hrecord] at hrecord'
            cases hrecord'
            rw [hrun', hrun]
            cases record.rethresholded value with
            | ok changed => exact congrArg (fun t => (_, FaultyStore.plain t)) (putRisk_withRisk_comm s _ _ _)
            | error cause => exact congrArg (fun t => (_, FaultyStore.plain t)) (withRisk_comm s _ _ _)
          · rw [run_supplierRow_of_not_canRead hentity hthreshold hread,
              run_supplierRow_of_not_canRead hentity hthreshold (mt (canRead_withSupplier s other id).1 hread)]
            rfl

theorem afterRow_withSupplier (s : Store) (id : SupplierId) (row : ThresholdRecord) :
    (s.withSupplier id).afterRow row = (s.afterRow row).withSupplier id := by
  rw [afterRow, run_row_withSupplier]
  rfl

theorem accepts_withSupplier (s : Store) (id : SupplierId) (row : ThresholdRecord) :
    (s.withSupplier id).accepts row = s.accepts row := by
  rw [accepts, run_row_withSupplier, accepts]

theorem afterRows_withSupplier (s : Store) (id : SupplierId) (rows : List ThresholdRecord) :
    (s.withSupplier id).afterRows rows = (s.afterRows rows).withSupplier id := by
  induction rows generalizing s with
  | nil => rfl
  | cons row rows ih =>
      show ((s.withSupplier id).afterRow row).afterRows rows = _
      rw [afterRow_withSupplier, ih]
      rfl

theorem acceptedRows_withSupplier (s : Store) (id : SupplierId) (rows : List ThresholdRecord) :
    (s.withSupplier id).acceptedRows rows = s.acceptedRows rows := by
  induction rows generalizing s with
  | nil => rfl
  | cons row rows ih => rw [acceptedRows, acceptedRows, accepts_withSupplier, afterRow_withSupplier, ih]

/-! ## All rows -/

theorem acceptedRows_of_accepted (haccept : s.accepts row = true) (rows : List ThresholdRecord) :
    s.acceptedRows (row :: rows) = row :: (s.afterRow row).acceptedRows rows := if_pos haccept

/-- A refused row has no bearing on which rows are accepted behind it. -/
theorem acceptedRows_of_refused (hrefused : s.accepts row = false) (rows : List ThresholdRecord) :
    s.acceptedRows (row :: rows) = s.acceptedRows rows := by
  have hrows : s.acceptedRows (row :: rows) = (s.afterRow row).acceptedRows rows := if_neg (by simp [hrefused])
  rw [hrows, afterRow_of_refused hrefused]
  cases row.misranged? with
  | none => rfl
  | some id => exact acceptedRows_withSupplier s id rows

/-- The rows that are accepted are accepted without the others as well. -/
theorem acceptedRows_acceptedRows (s : Store) (rows : List ThresholdRecord) :
    s.acceptedRows (s.acceptedRows rows) = s.acceptedRows rows := by
  induction rows generalizing s with
  | nil => rfl
  | cons row rows ih =>
      cases haccept : s.accepts row with
      | true => rw [acceptedRows_of_accepted haccept, acceptedRows_of_accepted haccept, ih]
      | false => rw [acceptedRows_of_refused haccept, ih]

/-- All rows leave the store that the accepted ones alone leave, with the records of the suppliers whose thresholds were
out of range. -/
theorem afterRows_eq (s : Store) (rows : List ThresholdRecord) :
    s.afterRows rows =
      (rows.filterMap ThresholdRecord.misranged?).foldl withSupplier (s.afterRows (s.acceptedRows rows)) := by
  induction rows generalizing s with
  | nil => rfl
  | cons row rows ih =>
      have hfirst : s.afterRows (row :: rows) = (s.afterRow row).afterRows rows := rfl
      cases haccept : s.accepts row with
      | true =>
          rw [hfirst, ih, acceptedRows_of_accepted haccept, List.filterMap_cons_none (misranged?_of_accepted haccept)]
          rfl
      | false =>
          rw [hfirst, afterRow_of_refused haccept, acceptedRows_of_refused haccept]
          cases hmisranged : row.misranged? with
          | none =>
              rw [List.filterMap_cons_none hmisranged]
              exact ih s
          | some id =>
              -- The record could as well be created after the accepted rows.
              rw [List.filterMap_cons_some hmisranged, List.foldl_cons, ← afterRows_withSupplier,
                ← acceptedRows_withSupplier s id]
              exact ih (s.withSupplier id)

/-- A record that is there, or cannot be created, stays so through all rows. -/
theorem foldl_withSupplier_afterRows {ids : List SupplierId} (hsame : ∀ id ∈ ids, s.withSupplier id = s)
    (rows : List ThresholdRecord) : ids.foldl withSupplier (s.afterRows rows) = s.afterRows rows := by
  induction ids with
  | nil => rfl
  | cons id ids ih =>
      rw [List.foldl_cons, ← afterRows_withSupplier, hsame id (by simp),
        ih fun other hother => hsame other (by simp [hother])]

/-- The records of suppliers, those to come included, can be saved so many times more. -/
def VersionsLast (s : Store) (saves : Nat) : Prop :=
  saves < Word.count64 ∧ ∀ r ∈ s.supplierRisks.rows, r.version.toNat + saves < Word.count64

instance (s : Store) (saves : Nat) : Decidable (s.VersionsLast saves) :=
  inferInstanceAs (Decidable (_ ∧ ∀ r ∈ s.supplierRisks.rows, r.version.toNat + saves < Word.count64))

theorem VersionsLast.mono {m n : Nat} (hlast : s.VersionsLast n) (hle : m ≤ n) : s.VersionsLast m :=
  ⟨hle.trans_lt hlast.1, fun r hr => (Nat.add_le_add_left hle _).trans_lt (hlast.2 r hr)⟩

/-- A record that is created has its whole range of versions before it. -/
theorem VersionsLast.riskOrFresh {n : Nat} {record : SupplierRisk} (hlast : s.VersionsLast n)
    (hrecord : s.riskOrFresh standardAlertThreshold (.supplier id) = .supplier record) :
    record.version.toNat + n < Word.count64 := by
  rw [Store.riskOrFresh] at hrecord
  cases hfind : s.supplierRisks.find? id.value.toNat with
  | none =>
      rw [riskRecord?, hfind] at hrecord
      cases hrecord
      exact (Nat.zero_add n).symm ▸ hlast.1
  | some stored =>
      rw [riskRecord?, hfind] at hrecord
      cases hrecord
      exact hlast.2 _ (Roster.find?_eq_some_iff.1 hfind).1

theorem VersionsLast.withSupplier {n : Nat} (hlast : s.VersionsLast n) :
    (s.withSupplier id).VersionsLast n := by
  unfold Store.withSupplier withRisk
  split
  · obtain ⟨record, hrecord⟩ : ∃ record, s.riskOrFresh standardAlertThreshold (.supplier id) = .supplier record := by
      rcases hfind : s.riskOrFresh standardAlertThreshold (.supplier id) with record | record
      · exact ⟨record, rfl⟩
      · have hentity := entity_riskOrFresh s standardAlertThreshold (.supplier id)
        rw [hfind] at hentity
        cases hentity
    rw [hrecord]
    exact ⟨hlast.1, Roster.forall_mem_insert (hlast.riskOrFresh hrecord) hlast.2⟩
  · exact hlast

theorem version_rethresholded {r changed : SupplierRisk} {value : Int} (hchanged : r.rethresholded value = .ok changed) :
    changed.version = r.version ∧ Word.hasNext r.version = true := by
  unfold SupplierRisk.rethresholded SupplierRisk.changed? at hchanged
  split at hchanged
  · rename_i hset
    split at hchanged
    · rename_i hnext
      obtain ⟨record, hrecord, hset⟩ := bind_eq_ok_iff.1 hset
      obtain ⟨-, -, hset⟩ := bind_eq_ok_iff.1 hset
      obtain ⟨v, -, rfl⟩ := map_eq_ok_iff.1 hrecord
      cases hset
      cases hchanged
      exact ⟨rfl, hnext⟩
    · cases hchanged
  · cases hchanged

/-- While there are versions, a row is accepted or refused, and takes one version at most. -/
theorem run_row_of_versionsLast {n : Nat} (hlast : s.VersionsLast (n + 1)) (row : ThresholdRecord) :
    (row.apply.run (.plain s)).1 ≠ .error .word ∧ (s.afterRow row).VersionsLast n := by
  have hkept : s.VersionsLast n := hlast.mono (Nat.le_succ n)
  unfold afterRow
  cases hentity : row.entity with
  | part part =>
      rw [run_partRow hentity]
      cases hset : row.lowStock.bind (s.setPartStockThreshold part) with
      | error e => exact ⟨fun h => (by cases h), hkept⟩
      | ok t =>
          obtain ⟨threshold, -, hset⟩ := bind_eq_ok_iff.1 hset
          have hrecords : t.supplierRisks = s.supplierRisks := by
            unfold setPartStockThreshold at hset
            split at hset <;> cases hset
            rfl
          exact ⟨fun h => (by cases h), hkept.1, fun r hr => hkept.2 r (hrecords ▸ hr)⟩
  | supplier id =>
      cases hthreshold : row.threshold with
      | none =>
          rw [run_emptySupplierRow hentity hthreshold]
          exact ⟨fun h => (by cases h), hkept⟩
      | some value =>
          by_cases hread : s.CanRead id
          · obtain ⟨record, hrecord, hrun⟩ := run_supplierRow hentity hthreshold hread
            have hroom := hlast.riskOrFresh hrecord
            rw [hrun]
            cases hchanged : record.rethresholded value with
            | ok changed =>
                have hversion : (RiskRecord.supplier changed).version = record.version :=
                  (version_rethresholded hchanged).1
                have hsaved : (RiskRecord.supplier changed).next.version.toNat = record.version.toNat + 1 := by
                  rw [RiskRecord.toNat_version_next (by rw [hversion]; omega), hversion]
                refine ⟨fun h => (by cases h), hkept.1, Roster.forall_mem_insert ?_ hkept.2⟩
                show (RiskRecord.supplier changed).next.version.toNat + n < Word.count64
                omega
            | error cause =>
                refine ⟨fun h => ?_, hkept.withSupplier⟩
                -- A row whose threshold is in range would have found a next version.
                have hnext : Word.hasNext record.version = true := decide_eq_true (by omega)
                obtain rfl : cause = .word := Except.error.inj h
                unfold SupplierRisk.rethresholded at hchanged
                split at hchanged
                · rw [if_pos hnext] at hchanged
                  cases hchanged
                · cases hchanged
          · rw [run_supplierRow_of_not_canRead hentity hthreshold hread]
            exact ⟨fun h => (by cases h), hkept⟩

/-- Every row is applied or reported, while there are versions. -/
theorem run_applyThresholds (s : Store) (report : ImportReport) (rows : List ThresholdRecord)
    (hlast : s.VersionsLast rows.length) :
    ∃ report', (applyThresholds report rows).run (.plain s) = (.ok report', .plain (s.afterRows rows)) ∧
      report'.applied = report.applied + (s.acceptedRows rows).length ∧
      report'.applied + report'.failures.length = report.applied + report.failures.length + rows.length := by
  induction rows generalizing s report with
  | nil => exact ⟨report, rfl, rfl, rfl⟩
  | cons row rows ih =>
      obtain ⟨hnext, hrows⟩ := run_row_of_versionsLast hlast row
      obtain ⟨result, hresult, hrun⟩ := (run_applyThresholds_cons report row rows (.plain s)).resolve_right
        fun ⟨g, hword, _⟩ => hnext (congrArg Prod.fst hword)
      rw [Script.run_plain] at hrun
      obtain ⟨report', hrest, happlied, hall⟩ := ih (s.afterRow row) (report.add row result) hrows
      refine ⟨report', hrun.trans hrest, ?_⟩
      have haccept : s.accepts row = result.isOk := by
        rw [accepts, hresult]
        cases result <;> rfl
      rw [acceptedRows, haccept]
      cases result with
      | ok u =>
          simp only [ImportReport.add] at happlied hall
          simp only [Except.isOk, Except.toBool, if_true, List.length_cons]
          omega
      | error e =>
          simp only [ImportReport.add, List.length_append, List.length_singleton] at happlied hall
          simp only [Except.isOk, Except.toBool, Bool.false_eq_true, if_false, List.length_cons]
          omega

/-- **Refused rows.**  A row that is refused leaves the store as it was, or with a record of a supplier for which it
asked a threshold out of range.  So an import leaves what its accepted rows alone would leave, with such records, and
exactly that if all suppliers in question are unknown or have records.  It answers for every row as long as the records
have versions left. -/
theorem refused_rows_leave_records (s : Store) (rows : List ThresholdRecord) :
    (∀ (t : Store) (row : ThresholdRecord), t.accepts row = false →
      t.afterRow row = (row.misranged?.map t.withSupplier).getD t) ∧
    (s.VersionsLast rows.length →
      ∃ report, (applyThresholds {} rows).run (.plain s) = (.ok report, .plain (s.afterRows rows)) ∧
        report.applied = (s.acceptedRows rows).length ∧ report.applied + report.failures.length = rows.length) ∧
    s.acceptedRows (s.acceptedRows rows) = s.acceptedRows rows ∧
    s.afterRows rows =
      (rows.filterMap ThresholdRecord.misranged?).foldl withSupplier (s.afterRows (s.acceptedRows rows)) ∧
    ((∀ row ∈ rows, ∀ id, row.misranged? = some id → s.knows (.supplier id) = true →
        (s.riskRecord? (.supplier id)).isSome = true) →
      s.afterRows rows = s.afterRows (s.acceptedRows rows)) := by
  refine ⟨fun t row hrefused => afterRow_of_refused hrefused, fun hlast => ?_, acceptedRows_acceptedRows s rows,
    afterRows_eq s rows, fun hstored => ?_⟩
  · obtain ⟨report, hrun, happlied, hall⟩ := run_applyThresholds s {} rows hlast
    exact ⟨report, hrun, by simpa using happlied, by simpa using hall⟩
  · have hsame : ∀ id ∈ rows.filterMap ThresholdRecord.misranged?, s.withSupplier id = s := by
      intro id hid
      obtain ⟨row, hrow, hmisranged⟩ := List.mem_filterMap.1 hid
      cases hknown : s.knows (.supplier id) with
      | true => exact withSupplier_of_stored (hstored row hrow id hmisranged hknown)
      | false => exact withRisk_of_unknown hknown
    rw [afterRows_eq]
    exact foldl_withSupplier_afterRows hsame _

/-- A supplier with a record, and rows of which the first one is out of range. -/
theorem refused_row_of_rated_supplier_leaves_nothing :
    (oneSource.withSupplier ⟨1⟩).acceptedRows [⟨.supplier, 1, some 150⟩, ⟨.supplier, 1, some 40⟩] =
        [⟨.supplier, 1, some 40⟩] ∧
      (∀ row ∈ [(⟨.supplier, 1, some 150⟩ : ThresholdRecord), ⟨.supplier, 1, some 40⟩], ∀ id,
        row.misranged? = some id → (oneSource.withSupplier ⟨1⟩).knows (.supplier id) = true →
          ((oneSource.withSupplier ⟨1⟩).riskRecord? (.supplier id)).isSome = true) ∧
      (oneSource.withSupplier ⟨1⟩).afterRows [⟨.supplier, 1, some 150⟩, ⟨.supplier, 1, some 40⟩] =
        (oneSource.withSupplier ⟨1⟩).afterRows
          ((oneSource.withSupplier ⟨1⟩).acceptedRows [⟨.supplier, 1, some 150⟩, ⟨.supplier, 1, some 40⟩]) ∧
      (oneSource.withSupplier ⟨1⟩).VersionsLast 2 ∧
      ∃ report : ImportReport, report.applied = 1 ∧ report.applied + report.failures.length = 2 := by
  have hstored : ∀ row ∈ [(⟨.supplier, 1, some 150⟩ : ThresholdRecord), ⟨.supplier, 1, some 40⟩], ∀ id,
      row.misranged? = some id → (oneSource.withSupplier ⟨1⟩).knows (.supplier id) = true →
        ((oneSource.withSupplier ⟨1⟩).riskRecord? (.supplier id)).isSome = true := by
    intro row hrow id hmisranged hknown
    rcases List.mem_cons.1 hrow with rfl | hrow
    · cases hmisranged
      decide +kernel
    · rcases List.mem_singleton.1 hrow with rfl
      cases hmisranged
  have hlast : (oneSource.withSupplier ⟨1⟩).VersionsLast 2 := by decide +kernel
  have haccepted : (oneSource.withSupplier ⟨1⟩).acceptedRows [⟨.supplier, 1, some 150⟩, ⟨.supplier, 1, some 40⟩] =
      [⟨.supplier, 1, some 40⟩] := by decide +kernel
  obtain ⟨-, hreport, -, -, hsame⟩ := refused_rows_leave_records (oneSource.withSupplier ⟨1⟩)
    [⟨.supplier, 1, some 150⟩, ⟨.supplier, 1, some 40⟩]
  obtain ⟨report, -, happlied, hall⟩ := hreport hlast
  exact ⟨haccepted, hstored, hsame hstored, hlast, report, happlied.trans (congrArg List.length haccepted), hall⟩

/-- A supplier without a record gets one from a row that is refused. -/
theorem refused_row_leaves_a_record :
    oneSource.acceptedRows [⟨.supplier, 1, some 150⟩] = [] ∧ oneSource.supplierRisks.rows.length = 0 ∧
      (oneSource.afterRows [⟨.supplier, 1, some 150⟩]).supplierRisks.rows.map (·.alertThreshold) = [70] ∧
      oneSource.afterRows [⟨.supplier, 1, some 150⟩] ≠
        oneSource.afterRows (oneSource.acceptedRows [⟨.supplier, 1, some 150⟩]) := by
  refine ⟨by decide +kernel, by decide +kernel, by decide +kernel, fun hsame => ?_⟩
  have hrecords := congrArg (fun s : Store => s.supplierRisks.rows.length) hsame
  revert hrecords
  decide +kernel

end Store

end SupplyRisk
