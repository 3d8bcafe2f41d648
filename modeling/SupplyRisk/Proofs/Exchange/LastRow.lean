import Mathlib.Data.List.Forall2
import SupplyRisk.Proofs.Exchange.Rejection

/-!
# The last accepted row

Whether a row is accepted depends neither on the thresholds nor on the versions that rows before it have changed.  So
the store that an import starts from decides about all rows (`Imported.reply`).  `Imported` says what has come of this
store once some rows are accepted: of every entity the last one counts, and records keep count of the others by their
versions.  A step keeps it (`Imported.accept`, `Imported.refuse`), and so does an import (`run_imported`).
-/

namespace SupplyRisk

/-- The row can be accepted: a percentage for a supplier that is known or has a record, which passes its check with
this threshold and has a next version; and for a known part a number of 32 bits, or none. -/
def ThresholdRecord.Acceptable (row : ThresholdRecord) (s : Store) : Prop :=
  match row.entity with
  | .supplier id => s.CanRead id ∧ ∃ value, row.threshold = some value ∧ (0 ≤ value ∧ value ≤ 100) ∧
      ∀ r, s.supplierRisks.find? id.value.toNat = some r →
        SupplierRisk.check { r with alertThreshold := UInt8.ofNat value.toNat } = .ok () ∧ Word.hasNext r.version = true
  | .part id => s.knows (.part id) = true ∧ ∀ value, row.threshold = some value → 0 ≤ value ∧ value < Word.count32

theorem ThresholdRecord.lowStock_eq_ok_iff {row : ThresholdRecord} {threshold : Option UInt32} :
    row.lowStock = .ok threshold ↔ (∀ value, row.threshold = some value → 0 ≤ value ∧ value < Word.count32) ∧
      threshold = row.threshold.map (fun value => UInt32.ofNat value.toNat) := by
  unfold lowStock
  cases row.threshold with
  | none => simp [eq_comm]
  | some value =>
      by_cases hvalue : 0 ≤ value ∧ value < Word.count32
      · have hstock : stockThreshold value = .ok (UInt32.ofNat value.toNat) := if_pos hvalue
        simp only [hstock, Option.some.injEq, forall_eq', hvalue, and_self, true_and]
        exact ⟨fun h => (Except.ok.inj h).symm, fun h => congrArg Except.ok h.symm⟩
      · have hstock : stockThreshold value = .error _ := if_neg hvalue
        simp only [hstock, Option.some.injEq, forall_eq', hvalue, false_and]
        exact iff_of_false (fun h => nomatch h) not_false

namespace SupplierRisk

variable {r r' changed : SupplierRisk} {value : Int}

theorem changed?_eq_ok_iff : r.changed? value = .ok changed ↔ (0 ≤ value ∧ value ≤ 100) ∧
    check { r with alertThreshold := UInt8.ofNat value.toNat } = .ok () ∧
    changed = { r with alertThreshold := UInt8.ofNat value.toNat } := by
  unfold changed? setAlertThreshold checkPercentage
  split
  · rename_i hvalue
    show (check _ >>= fun _ => pure _) = _ ↔ _
    cases hcheck : check { r with alertThreshold := UInt8.ofNat value.toNat } with
    | error e => simp [bind, Except.bind]
    | ok u => simp [bind, Except.bind, pure, Except.pure, hvalue, eq_comm]
  · rename_i hvalue
    simp [hvalue, Except.map, bind, Except.bind]

/-- Neither threshold nor version of a record tell how it takes another threshold. -/
theorem changed?_congr (value : Int) (hoverall : r'.overall = r.overall) :
    (r'.changed? value).map (fun _ => ()) = (r.changed? value).map (fun _ => ()) := by
  have hcheck : check { r' with alertThreshold := UInt8.ofNat value.toNat } =
      check { r with alertThreshold := UInt8.ofNat value.toNat } := by
    unfold check
    rw [hoverall]
  unfold changed? setAlertThreshold checkPercentage
  split
  · show Except.map _ (check _ >>= fun _ => pure _) = Except.map _ (check _ >>= fun _ => pure _)
    rw [hcheck]
    cases check { r with alertThreshold := UInt8.ofNat value.toNat } <;> rfl
  · rfl

theorem rethresholded_eq_ok_iff : r.rethresholded value = .ok changed ↔ (0 ≤ value ∧ value ≤ 100) ∧
    (check { r with alertThreshold := UInt8.ofNat value.toNat } = .ok () ∧ Word.hasNext r.version = true) ∧
    changed = { r with alertThreshold := UInt8.ofNat value.toNat } := by
  unfold rethresholded
  cases hchanged : r.changed? value with
  | error e =>
      refine iff_of_false (fun h => nomatch h) fun ⟨hvalue, ⟨hcheck, _⟩, _⟩ => ?_
      rw [changed?_eq_ok_iff.2 ⟨hvalue, hcheck, rfl⟩] at hchanged
      cases hchanged
  | ok saved =>
      obtain ⟨hvalue, hcheck, rfl⟩ := changed?_eq_ok_iff.1 hchanged
      by_cases hnext : Word.hasNext r.version = true
      · simp [hvalue, hcheck, hnext, eq_comm]
      · simp [hnext]

theorem rethresholded_congr (value : Int) (hoverall : r'.overall = r.overall)
    (hnext : Word.hasNext r'.version = Word.hasNext r.version) :
    (r'.rethresholded value).map (fun _ => ()) = (r.rethresholded value).map (fun _ => ()) := by
  have hsame := changed?_congr value hoverall
  unfold rethresholded
  rw [hnext]
  generalize r'.changed? value = x at hsame ⊢
  generalize r.changed? value = y at hsame ⊢
  cases x <;> cases y <;> cases hsame
  · rfl
  · dsimp only
    split <;> rfl

/-- The record after its rows: it has the threshold of the last one, and its version has counted them. -/
def importing (r : SupplierRisk) (rows : List ThresholdRecord) : SupplierRisk :=
  { r with
    alertThreshold := (rows.getLast?.bind (·.threshold)).elim r.alertThreshold (fun value => UInt8.ofNat value.toNat)
    version := r.version + UInt64.ofNat rows.length }

theorem importing_nil (r : SupplierRisk) : r.importing [] = r := by
  simp [importing]

theorem importing_concat {row : ThresholdRecord} (hthreshold : row.threshold = some value) (r : SupplierRisk)
    (rows : List ThresholdRecord) : r.importing (rows ++ [row]) =
      { r.importing rows with
        alertThreshold := UInt8.ofNat value.toNat
        version := (r.importing rows).version + 1 } := by
  simp [importing, hthreshold, UInt64.ofNat_add, UInt64.add_assoc]

end SupplierRisk

/-- The part after its rows: the last one has set its low-stock threshold or cleared it. -/
def Part.importing (p : Part) (rows : List ThresholdRecord) : Part :=
  { p with
    lowStockThreshold := rows.getLast?.elim p.lowStockThreshold
      (fun row => row.threshold.map (fun value => UInt32.ofNat value.toNat)) }

theorem Part.importing_concat (p : Part) (rows : List ThresholdRecord) (row : ThresholdRecord) :
    p.importing (rows ++ [row]) = { p.importing rows with
      lowStockThreshold := row.threshold.map (fun value => UInt32.ofNat value.toNat) } := by
  simp [importing]

namespace Store

variable {s t : Store} {id : SupplierId} {part : PartId} {row : ThresholdRecord} {rows accepted : List ThresholdRecord}

/-- The record of a supplier, or the one that an import creates. -/
def supplierRecord (s : Store) (id : SupplierId) : SupplierRisk :=
  (s.supplierRisks.find? id.value.toNat).getD (.new id standardAlertThreshold)

theorem riskOrFresh_supplier (s : Store) (id : SupplierId) :
    s.riskOrFresh standardAlertThreshold (.supplier id) = .supplier (s.supplierRecord id) := by
  rw [riskOrFresh, riskRecord?, supplierRecord]
  cases s.supplierRisks.find? id.value.toNat <;> rfl

theorem supplier_supplierRecord (s : Store) (id : SupplierId) : (s.supplierRecord id).supplier = id := by
  have hentity := s.entity_riskOrFresh standardAlertThreshold (.supplier id)
  rw [riskOrFresh_supplier] at hentity
  exact EntityRef.supplier.inj hentity

theorem supplierRecord_of_find? {r : SupplierRisk} (hfind : s.supplierRisks.find? id.value.toNat = some r) :
    s.supplierRecord id = r := by
  rw [supplierRecord, hfind, Option.getD_some]

theorem supplierRecord_withSupplier (s : Store) (id other : SupplierId) :
    (s.withSupplier other).supplierRecord id = s.supplierRecord id := by
  have hsame := s.riskOrFresh_withRisk standardAlertThreshold (.supplier other) (.supplier id)
  rw [riskOrFresh_supplier] at hsame
  exact RiskRecord.supplier.inj (hsame.trans (s.riskOrFresh_supplier id))

/-! ## Single rows -/

theorem run_supplierRow_of_canRead {value : Int} (hentity : row.entity = .supplier id)
    (hthreshold : row.threshold = some value) (hread : s.CanRead id) :
    row.apply.run (.plain s) =
      match (s.supplierRecord id).rethresholded value with
      | .ok changed => (.ok (), .plain (s.putRisk (RiskRecord.supplier changed).next))
      | .error cause => (.error cause, .plain (s.withSupplier id)) := by
  obtain ⟨record, hrecord, hrun⟩ := run_supplierRow hentity hthreshold hread
  rw [riskOrFresh_supplier] at hrecord
  cases hrecord
  exact hrun

/-- An accepted row of a supplier changes the record of this supplier. -/
theorem of_accepted_supplierRow (hentity : row.entity = .supplier id) (haccept : s.accepts row = true) :
    s.CanRead id ∧ ∃ value, row.threshold = some value ∧
      (s.supplierRecord id).rethresholded value =
        .ok { s.supplierRecord id with alertThreshold := UInt8.ofNat value.toNat } ∧
      s.afterRow row = s.putRisk (.supplier { s.supplierRecord id with
        alertThreshold := UInt8.ofNat value.toNat
        version := (s.supplierRecord id).version + 1 }) := by
  unfold accepts at haccept
  unfold afterRow
  cases hthreshold : row.threshold with
  | none =>
      rw [run_emptySupplierRow hentity hthreshold] at haccept
      cases haccept
  | some value =>
      by_cases hread : s.CanRead id
      · rw [run_supplierRow_of_canRead hentity hthreshold hread] at haccept ⊢
        cases hchanged : (s.supplierRecord id).rethresholded value with
        | error cause =>
            rw [hchanged] at haccept
            cases haccept
        | ok changed =>
            obtain ⟨-, -, rfl⟩ := SupplierRisk.rethresholded_eq_ok_iff.1 hchanged
            exact ⟨hread, value, rfl, hchanged, rfl⟩
      · rw [run_supplierRow_of_not_canRead hentity hthreshold hread] at haccept
        cases haccept

/-- An accepted row of a part changes this part. -/
theorem of_accepted_partRow (hentity : row.entity = .part part) (haccept : s.accepts row = true) :
    ∃ threshold p, row.lowStock = .ok threshold ∧ s.parts.find? part.value.toNat = some p ∧
      s.afterRow row = s.addPart { p with lowStockThreshold := threshold } := by
  unfold accepts at haccept
  unfold afterRow
  rw [run_partRow hentity] at haccept ⊢
  cases hlow : row.lowStock with
  | error e =>
      rw [hlow] at haccept
      cases haccept
  | ok threshold =>
      cases hfind : s.parts.find? part.value.toNat with
      | none =>
          simp only [hlow, Except.bind, setPartStockThreshold, hfind] at haccept
          cases haccept
      | some p =>
          refine ⟨threshold, p, rfl, rfl, ?_⟩
          simp only [Except.bind, setPartStockThreshold, hfind]
          rfl

theorem accepts_supplierRow_iff (hentity : row.entity = .supplier id) :
    s.accepts row = true ↔ s.CanRead id ∧ ∃ value, row.threshold = some value ∧
      ∃ changed, (s.supplierRecord id).rethresholded value = .ok changed := by
  constructor
  · intro haccept
    obtain ⟨hread, value, hthreshold, hchanged, -⟩ := of_accepted_supplierRow hentity haccept
    exact ⟨hread, value, hthreshold, _, hchanged⟩
  · rintro ⟨hread, value, hthreshold, changed, hchanged⟩
    rw [accepts, run_supplierRow_of_canRead hentity hthreshold hread, hchanged]
    rfl

theorem accepts_partRow_iff (hentity : row.entity = .part part) :
    s.accepts row = true ↔ ∃ threshold p, row.lowStock = .ok threshold ∧ s.parts.find? part.value.toNat = some p := by
  constructor
  · intro haccept
    obtain ⟨threshold, p, hlow, hfind, -⟩ := of_accepted_partRow hentity haccept
    exact ⟨threshold, p, hlow, hfind⟩
  · rintro ⟨threshold, p, hlow, hfind⟩
    rw [accepts, run_partRow hentity, hlow]
    simp only [Except.bind, setPartStockThreshold, hfind]
    rfl

/-- Exactly the acceptable rows are accepted. -/
theorem accepts_iff : s.accepts row = true ↔ row.Acceptable s := by
  unfold ThresholdRecord.Acceptable
  cases hentity : row.entity with
  | supplier id =>
      rw [accepts_supplierRow_iff hentity]
      refine and_congr_right fun _ => exists_congr fun value => and_congr_right fun _ => ?_
      simp only [SupplierRisk.rethresholded_eq_ok_iff, exists_and_left, exists_eq, and_true]
      refine and_congr_right fun hvalue => ?_
      unfold supplierRecord
      cases hfind : s.supplierRisks.find? id.value.toNat with
      | some r => simp
      | none =>
          obtain ⟨changed, hchanged⟩ := rethresholded_new hvalue id standardAlertThreshold
          have haccepted := (SupplierRisk.rethresholded_eq_ok_iff.1 hchanged).2.1
          exact iff_of_true haccepted fun r hr => nomatch hr
  | part id =>
      rw [accepts_partRow_iff hentity]
      simp only [ThresholdRecord.lowStock_eq_ok_iff, knows, Roster.contains_iff]
      constructor
      · rintro ⟨threshold, p, ⟨hvalue, -⟩, hfind⟩
        exact ⟨⟨p, hfind⟩, hvalue⟩
      · rintro ⟨⟨p, hfind⟩, hvalue⟩
        exact ⟨_, p, ⟨hvalue, rfl⟩, hfind⟩

/-! ## What comes of a store -/

/-- The rows for an entity. -/
def rowsFor (entity : EntityRef) (rows : List ThresholdRecord) : List ThresholdRecord :=
  rows.filter (fun row => row.entity = entity)

theorem rowsFor_concat (entity : EntityRef) (rows : List ThresholdRecord) (row : ThresholdRecord) :
    rowsFor entity (rows ++ [row]) =
      if row.entity = entity then rowsFor entity rows ++ [row] else rowsFor entity rows := by
  unfold rowsFor
  rw [List.filter_append, List.filter_cons, List.filter_nil]
  by_cases hsame : row.entity = entity <;> simp [hsame]

theorem supplierRecord_putRisk (s : Store) (r : SupplierRisk) (id : SupplierId) :
    (s.putRisk (.supplier r)).supplierRecord id = if r.supplier = id then r else s.supplierRecord id := by
  show ((s.supplierRisks.insert r).find? id.value.toNat).getD _ = _
  rw [Roster.find?_insert]
  have hkey : Ranked.rank r = id.value.toNat ↔ r.supplier = id := SupplierId.toNat_inj
  by_cases hsame : r.supplier = id
  · rw [if_pos hsame, if_pos (hkey.2 hsame), Option.getD_some]
  · rw [if_neg hsame, if_neg (mt hkey.1 hsame), supplierRecord]

/-- What has come of a store in which rows were accepted: of every supplier and part the last of its rows counts, and
everything else is as it was. -/
structure Imported (s : Store) (accepted : List ThresholdRecord) (t : Store) : Prop where
  rest : t = { s with parts := t.parts, supplierRisks := t.supplierRisks }
  part : ∀ id : PartId, t.parts.find? id.value.toNat =
    (s.parts.find? id.value.toNat).map (·.importing (rowsFor (.part id) accepted))
  record : ∀ id, t.supplierRecord id = (s.supplierRecord id).importing (rowsFor (.supplier id) accepted)
  canRead : ∀ id, t.CanRead id ↔ s.CanRead id
  stored : ∀ id, (s.riskRecord? (.supplier id)).isSome = true ∨ rowsFor (.supplier id) accepted ≠ [] →
    (t.riskRecord? (.supplier id)).isSome = true

namespace Imported

theorem refl (s : Store) : Imported s [] s where
  rest := rfl
  part _ := Option.map_id'.symm
  record _ := (SupplierRisk.importing_nil _).symm
  canRead _ := Iff.rfl
  stored _ h := h.resolve_right fun hne => hne rfl

/-- Records that are put leave those of all suppliers in place. -/
theorem isSome_putRisk (s : Store) (r : RiskRecord) {entity : EntityRef}
    (hstored : (s.riskRecord? entity).isSome = true) : ((s.putRisk r).riskRecord? entity).isSome = true := by
  rw [riskRecord?_putRisk]
  split
  · rfl
  · exact hstored

theorem rest_putRisk (h : Imported s accepted t) (r : SupplierRisk) :
    t.putRisk (.supplier r) = { s with
      parts := (t.putRisk (.supplier r)).parts
      supplierRisks := (t.putRisk (.supplier r)).supplierRisks } :=
  congrArg (fun u : Store => { u with supplierRisks := t.supplierRisks.insert r }) h.rest

theorem rest_addPart (h : Imported s accepted t) (p : Part) :
    t.addPart p = { s with parts := (t.addPart p).parts, supplierRisks := (t.addPart p).supplierRisks } :=
  congrArg (fun u : Store => { u with parts := t.parts.insert p }) h.rest

theorem withSupplier (h : Imported s accepted t) (id : SupplierId) : Imported s accepted (t.withSupplier id) := by
  have hrecord (other : SupplierId) := (supplierRecord_withSupplier t other id).trans (h.record other)
  have hread (other : SupplierId) := (canRead_withSupplier t other id).trans (h.canRead other)
  revert hrecord hread
  rw [Store.withSupplier, withRisk, riskOrFresh_supplier]
  split
  · refine fun hrecord hread => ⟨h.rest_putRisk _, h.part, hrecord, hread, fun other hstored => ?_⟩
    exact isSome_putRisk _ _ (h.stored other hstored)
  · exact fun hrecord hread => h

/-- A refused row changes nothing that counts. -/
theorem refuse (h : Imported s accepted t) (hrefused : t.accepts row = false) :
    Imported s accepted (t.afterRow row) := by
  rw [afterRow_of_refused hrefused]
  cases row.misranged? with
  | none => exact h
  | some id => exact h.withSupplier id

/-- An accepted row of a supplier counts as the last one of this supplier. -/
theorem accept_supplier (h : Imported s accepted t) (hentity : row.entity = .supplier id)
    (haccept : t.accepts row = true) : Imported s (accepted ++ [row]) (t.afterRow row) := by
  obtain ⟨hread, value, hthreshold, -, hafter⟩ := of_accepted_supplierRow hentity haccept
  rw [hafter]
  have hrows (other : SupplierId) := rowsFor_concat (.supplier other) accepted row
  simp only [hentity, EntityRef.supplier.injEq] at hrows
  have hsupplier := t.supplier_supplierRecord id
  refine ⟨h.rest_putRisk _, fun part => ?_, fun other => ?_, fun other => ?_, fun other hstored => ?_⟩
  · rw [rowsFor_concat, if_neg (by rw [hentity]; exact fun h => nomatch h)]
    exact h.part part
  · rw [supplierRecord_putRisk, hrows]
    by_cases hsame : id = other
    · subst hsame
      rw [if_pos hsupplier, if_pos rfl, SupplierRisk.importing_concat hthreshold, h.record]
    · rw [if_neg (by rwa [hsupplier]), if_neg hsame, h.record]
  · refine Iff.trans ?_ (h.canRead other)
    unfold CanRead
    rw [riskRecord?_putRisk]
    split
    · rename_i hsame
      obtain rfl : id = other := hsupplier.symm.trans (EntityRef.supplier.inj hsame)
      exact iff_of_true (.inr rfl) hread
    · rfl
  · rw [riskRecord?_putRisk]
    split
    · rfl
    · rename_i hother
      have hne : id ≠ other := fun hsame => hother (congrArg EntityRef.supplier (hsupplier.trans hsame))
      rw [hrows, if_neg hne] at hstored
      exact h.stored other hstored

/-- An accepted row of a part counts as the last one of this part. -/
theorem accept_part (h : Imported s accepted t) {id : PartId} (hentity : row.entity = .part id)
    (haccept : t.accepts row = true) : Imported s (accepted ++ [row]) (t.afterRow row) := by
  obtain ⟨threshold, p, hlow, hfind, hafter⟩ := of_accepted_partRow hentity haccept
  obtain ⟨-, rfl⟩ := ThresholdRecord.lowStock_eq_ok_iff.1 hlow
  have hrows (other : PartId) := rowsFor_concat (.part other) accepted row
  simp only [hentity, EntityRef.part.injEq] at hrows
  have hother (other : SupplierId) : rowsFor (.supplier other) (accepted ++ [row]) = rowsFor (.supplier other) accepted := by
    rw [rowsFor_concat, if_neg (by rw [hentity]; exact fun h => nomatch h)]
  obtain ⟨hmem, hid⟩ := Roster.find?_eq_some_iff.1 hfind
  have hpart := h.part id
  rw [hfind] at hpart
  obtain ⟨p', hfind', rfl⟩ := Option.map_eq_some_iff.1 hpart.symm
  rw [← Part.importing_concat] at hafter
  replace hid : Ranked.rank (p'.importing (rowsFor (.part id) accepted ++ [row])) = id.value.toNat := hid
  rw [hafter]
  refine ⟨h.rest_addPart _, fun other => ?_, fun other => ?_, h.canRead, fun other hstored => ?_⟩
  · show (t.parts.insert _).find? _ = _
    rw [Roster.find?_insert, hrows, hid]
    by_cases hsame : id = other
    · subst hsame
      rw [if_pos rfl, if_pos rfl, hfind', Option.map_some]
    · rw [if_neg hsame, if_neg (mt PartId.toNat_inj.1 hsame), h.part]
  · rw [hother]
    exact h.record other
  · rw [hother] at hstored
    exact h.stored other hstored

theorem accept (h : Imported s accepted t) (haccept : t.accepts row = true) :
    Imported s (accepted ++ [row]) (t.afterRow row) := by
  cases hentity : row.entity with
  | supplier id => exact h.accept_supplier hentity haccept
  | part id => exact h.accept_part hentity haccept

/-- While there are versions, a row is answered as it would be by the store at the start. -/
theorem reply (h : Imported s accepted t) (hs : s.VersionsLast 1) (ht : t.VersionsLast 1) (row : ThresholdRecord) :
    (row.apply.run (.plain t)).1 = (row.apply.run (.plain s)).1 := by
  cases hentity : row.entity with
  | part id =>
      rw [run_partRow hentity, run_partRow hentity]
      cases row.lowStock with
      | error e => rfl
      | ok threshold =>
          simp only [Except.bind, setPartStockThreshold, h.part]
          cases s.parts.find? id.value.toNat <;> rfl
  | supplier id =>
      cases hthreshold : row.threshold with
      | none => rw [run_emptySupplierRow hentity hthreshold, run_emptySupplierRow hentity hthreshold]
      | some value =>
          by_cases hread : s.CanRead id
          · rw [run_supplierRow_of_canRead hentity hthreshold ((h.canRead id).2 hread),
              run_supplierRow_of_canRead hentity hthreshold hread, h.record]
            have hnext (u : Store) (hu : u.VersionsLast 1) : Word.hasNext (u.supplierRecord id).version = true :=
              decide_eq_true (hu.riskOrFresh (u.riskOrFresh_supplier id))
            have hsame : (((s.supplierRecord id).importing (rowsFor (.supplier id) accepted)).rethresholded value).map _ =
                _ :=
              SupplierRisk.rethresholded_congr value (r := s.supplierRecord id) rfl
                (by rw [← h.record, hnext t ht, hnext s hs])
            generalize ((s.supplierRecord id).importing (rowsFor (.supplier id) accepted)).rethresholded value = x at hsame ⊢
            generalize (s.supplierRecord id).rethresholded value = y at hsame ⊢
            cases x <;> cases y <;> cases hsame <;> rfl
          · rw [run_supplierRow_of_not_canRead hentity hthreshold (mt (h.canRead id).1 hread),
              run_supplierRow_of_not_canRead hentity hthreshold hread]

theorem accepts (h : Imported s accepted t) (hs : s.VersionsLast 1) (ht : t.VersionsLast 1) (row : ThresholdRecord) :
    t.accepts row = s.accepts row := by
  rw [Store.accepts, h.reply hs ht, Store.accepts]

end Imported

/-! ## Imports -/

/-- The failure that is reported for a row which the store refuses. -/
def Reports (s : Store) (row : ThresholdRecord) (failure : Failure) : Prop :=
  ∃ e, (row.apply.run (.plain s)).1 = .error (.failure e) ∧ failure = .ofError row.entity .thresholdImport e

/-- An import accepts and reports the rows that the store at the start accepts and refuses. -/
theorem run_imported (h : Imported s accepted t) (report : ImportReport) (rows : List ThresholdRecord)
    (hs : rows ≠ [] → s.VersionsLast 1) (ht : t.VersionsLast rows.length) :
    ∃ report' failures, (applyThresholds report rows).run (.plain t) = (.ok report', .plain (t.afterRows rows)) ∧
      report'.applied = report.applied + (rows.filter s.accepts).length ∧
      report'.failures = report.failures ++ failures ∧
      List.Forall₂ s.Reports (rows.filter (fun row => !s.accepts row)) failures ∧
      Imported s (accepted ++ rows.filter s.accepts) (t.afterRows rows) := by
  induction rows generalizing t accepted report with
  | nil => exact ⟨report, [], rfl, rfl, (List.append_nil _).symm, .nil, (List.append_nil accepted).symm ▸ h⟩
  | cons row rows ih =>
      obtain ⟨hword, hrows⟩ := run_row_of_versionsLast ht row
      obtain ⟨result, hresult, hrun⟩ := (run_applyThresholds_cons report row rows (.plain t)).resolve_right
        fun ⟨g, hhalt, _⟩ => hword (congrArg Prod.fst hhalt)
      rw [Script.run_plain] at hrun
      have hs : s.VersionsLast 1 := hs (List.cons_ne_nil row rows)
      have ht : t.VersionsLast 1 := ht.mono (by simp)
      -- Whether a row is accepted does not depend on the rows before it.
      have haccept : s.accepts row = result.isOk := by
        rw [← h.accepts hs ht, Store.accepts, hresult]
        cases result <;> rfl
      cases result with
      | ok u =>
          have hnext := h.accept ((h.accepts hs ht row).trans haccept)
          obtain ⟨report', failures, hrest, happlied, hfailures, hreports, himported⟩ :=
            ih hnext (report.add row (.ok u)) (fun _ => hs) hrows
          have haccept : s.accepts row = true := haccept
          rw [List.append_assoc, List.singleton_append, ← List.filter_cons_of_pos haccept] at himported
          refine ⟨report', failures, hrun.trans hrest, ?_, hfailures, ?_, himported⟩
          · rw [happlied, List.filter_cons_of_pos haccept, List.length_cons]
            exact Nat.add_right_comm _ _ _
          · rwa [List.filter_cons, haccept]
      | error e =>
          have hnext := h.refuse ((h.accepts hs ht row).trans haccept)
          obtain ⟨report', failures, hrest, happlied, hfailures, hreports, himported⟩ :=
            ih hnext (report.add row (.error e)) (fun _ => hs) hrows
          have haccept : s.accepts row = false := haccept
          have hrefuse : ¬ s.accepts row = true := Bool.eq_false_iff.1 haccept
          rw [← List.filter_cons_of_neg hrefuse] at happlied himported
          refine ⟨report', .ofError row.entity .thresholdImport e :: failures, hrun.trans hrest, happlied, ?_, ?_,
            himported⟩
          · rw [hfailures, ImportReport.add, List.append_assoc, List.singleton_append]
          · rw [List.filter_cons, haccept]
            exact .cons ⟨e, (h.reply hs ht row).symm.trans hresult, rfl⟩ hreports

/-- What accepted rows make of the record of their supplier. -/
structure SupplierOutcome (rows : List ThresholdRecord) (before after : Option SupplierRisk) : Prop where
  unchanged : rows = [] → ∀ r, before = some r → after = some r
  threshold : ∀ row, rows.getLast? = some row → ∃ r, after = some r ∧ row.threshold = some (r.alertThreshold.toNat : Int)
  others : ∀ r r', before = some r → after = some r' →
    r' = { r with alertThreshold := r'.alertThreshold, version := r'.version }
  version : ∀ r r', before = some r → after = some r' → r.version.toNat + rows.length < Word.count64 →
    r'.version.toNat = r.version.toNat + rows.length

/-- What accepted rows make of their part. -/
structure PartOutcome (rows : List ThresholdRecord) (before after : Option Part) : Prop where
  unchanged : rows = [] → after = before
  threshold : ∀ row, rows.getLast? = some row → ∃ p, after = some p ∧
    p.lowStockThreshold.map (fun n => (n.toNat : Int)) = row.threshold
  known : after.isSome = before.isSome
  others : ∀ p p', before = some p → after = some p' → p' = { p with lowStockThreshold := p'.lowStockThreshold }

namespace Imported

/-- The last of the accepted rows for an entity is one that the store at the start accepts. -/
theorem of_getLast? {entity : EntityRef} (haccepted : ∀ row ∈ accepted, s.accepts row = true)
    (hlast : (rowsFor entity accepted).getLast? = some row) : row.entity = entity ∧ row.Acceptable s := by
  obtain ⟨hmem, hentity⟩ := List.mem_filter.1 (List.mem_of_getLast? hlast)
  exact ⟨of_decide_eq_true hentity, accepts_iff.1 (haccepted row hmem)⟩

/-- Where a supplier has a record afterwards, this is the one from before after its rows. -/
theorem record_of_find? (h : Imported s accepted t) {id : SupplierId} {r r' : SupplierRisk}
    (hbefore : s.supplierRisks.find? id.value.toNat = some r) (hafter : t.supplierRisks.find? id.value.toNat = some r') :
    r' = r.importing (rowsFor (.supplier id) accepted) := by
  rw [← supplierRecord_of_find? hbefore, ← supplierRecord_of_find? hafter, h.record]

theorem supplierOutcome (h : Imported s accepted t) (haccepted : ∀ row ∈ accepted, s.accepts row = true)
    (id : SupplierId) : SupplierOutcome (rowsFor (.supplier id) accepted)
      (s.supplierRisks.find? id.value.toNat) (t.supplierRisks.find? id.value.toNat) := by
  have hstored (hbefore : (s.riskRecord? (.supplier id)).isSome = true ∨ rowsFor (.supplier id) accepted ≠ []) :
      ∃ r', t.supplierRisks.find? id.value.toNat = some r' := by
    have hsome := h.stored id hbefore
    rw [riskRecord?, Option.isSome_map] at hsome
    exact Option.isSome_iff_exists.1 hsome
  refine ⟨fun hnone r hr => ?_, fun row hlast => ?_, fun r r' hr hr' => ?_, fun r r' hr hr' hfit => ?_⟩
  · obtain ⟨r', hr'⟩ := hstored (.inl (by rw [riskRecord?, hr]; rfl))
    rw [hr', h.record_of_find? hr hr', hnone, SupplierRisk.importing_nil]
  · obtain ⟨r', hr'⟩ := hstored (.inr fun hnone => by rw [hnone] at hlast; cases hlast)
    obtain ⟨hentity, hacceptable⟩ := of_getLast? haccepted hlast
    rw [ThresholdRecord.Acceptable, hentity] at hacceptable
    obtain ⟨-, value, hthreshold, hvalue, -⟩ := hacceptable
    refine ⟨r', hr', hthreshold.trans (congrArg some ?_)⟩
    have hword : r'.alertThreshold = UInt8.ofNat value.toNat := by
      rw [← supplierRecord_of_find? hr', h.record, SupplierRisk.importing, hlast]
      simp only [Option.bind_some, hthreshold, Option.elim_some]
    have hlt : value.toNat % 2 ^ 8 = value.toNat := Nat.mod_eq_of_lt (by omega)
    rw [hword, UInt8.toNat_ofNat', hlt]
    omega
  · rw [h.record_of_find? hr hr']
    rfl
  · rw [h.record_of_find? hr hr']
    show (r.version + UInt64.ofNat _).toNat = _
    rw [UInt64.toNat_add, UInt64.toNat_ofNat', Nat.add_mod_mod]
    exact Nat.mod_eq_of_lt hfit

theorem partOutcome (h : Imported s accepted t) (haccepted : ∀ row ∈ accepted, s.accepts row = true) (id : PartId) :
    PartOutcome (rowsFor (.part id) accepted) (s.parts.find? id.value.toNat) (t.parts.find? id.value.toNat) := by
  rw [h.part]
  refine ⟨fun hnone => ?_, fun row hlast => ?_, Option.isSome_map, fun p p' hp hp' => ?_⟩
  · rw [hnone]
    exact Option.map_id'
  · obtain ⟨hentity, hacceptable⟩ := of_getLast? haccepted hlast
    rw [ThresholdRecord.Acceptable, hentity] at hacceptable
    obtain ⟨hknown, hvalue⟩ := hacceptable
    obtain ⟨p, hp⟩ := Roster.contains_iff.1 hknown
    refine ⟨p.importing (rowsFor (.part id) accepted), by rw [hp]; rfl, ?_⟩
    rw [Part.importing, hlast]
    cases hthreshold : row.threshold with
    | none => simp only [Option.elim_some, hthreshold, Option.map_none]
    | some value =>
        obtain ⟨hnonneg, hlt⟩ : 0 ≤ value ∧ value < (4294967296 : Int) := hvalue value hthreshold
        have hword : value.toNat % 2 ^ 32 = value.toNat := Nat.mod_eq_of_lt (by omega)
        simp only [Option.elim_some, hthreshold, Option.map_some, UInt32.toNat_ofNat', hword]
        rw [Int.toNat_of_nonneg hnonneg]
  · rw [hp] at hp'
    cases hp'
    rfl

end Imported

/-- **The last accepted row wins.**  An import answers for every row whether it was applied, and reports the refused
ones in their order.  A row is accepted exactly if the store at the start can accept it.  Every supplier and part has
the threshold of the last row that was accepted for it, and only such rows change anything of suppliers that had a
record and of parts: the threshold, and the version of a record, which counts them and has to last.  Everything else
stays. -/
theorem last_accepted_row_wins (s : Store) (rows : List ThresholdRecord) (hlast : s.VersionsLast rows.length) :
    (∀ row, s.accepts row = true ↔ row.Acceptable s) ∧
    ∃ report t, (applyThresholds {} rows).run (.plain s) = (.ok report, .plain t) ∧
      report.applied + report.failures.length = rows.length ∧
      report.applied = (rows.filter s.accepts).length ∧
      List.Forall₂ s.Reports (rows.filter (fun row => !s.accepts row)) report.failures ∧
      t = { s with parts := t.parts, supplierRisks := t.supplierRisks } ∧
      (∀ id, SupplierOutcome (rowsFor (.supplier id) (rows.filter s.accepts))
        (s.supplierRisks.find? id.value.toNat) (t.supplierRisks.find? id.value.toNat)) ∧
      (∀ id, PartOutcome (rowsFor (.part id) (rows.filter s.accepts))
        (s.parts.find? id.value.toNat) (t.parts.find? id.value.toNat)) := by
  refine ⟨fun row => accepts_iff, ?_⟩
  obtain ⟨report, failures, hrun, happlied, hfailures, hreports, himported⟩ := run_imported (.refl s) {} rows
    (fun hrows => hlast.mono (List.length_pos_of_ne_nil hrows)) hlast
  rw [List.nil_append] at himported
  have haccepted : ∀ row ∈ rows.filter s.accepts, s.accepts row = true := fun row hmem => (List.mem_filter.1 hmem).2
  have hall : report.applied + report.failures.length = rows.length := by
    rw [happlied, hfailures, List.length_append, ← hreports.length_eq, ← List.countP_eq_length_filter,
      ← List.countP_eq_length_filter, List.length_eq_countP_add_countP s.accepts]
    simp
  exact ⟨report, _, hrun, hall, by simpa using happlied, hfailures ▸ hreports, himported.rest,
    himported.supplierOutcome haccepted, himported.partOutcome haccepted⟩

/-- Of three rows for a supplier the second one is out of range; the threshold of the part is set and cleared again. -/
theorem third_row_wins :
    let rows : List ThresholdRecord := [⟨.supplier, 1, some 40⟩, ⟨.part, 10, some 5⟩, ⟨.supplier, 1, some 150⟩,
      ⟨.supplier, 1, some 55⟩, ⟨.part, 10, none⟩]
    oneSource.VersionsLast rows.length ∧
    ∃ report t, (applyThresholds {} rows).run (.plain oneSource) = (.ok report, .plain t) ∧ report.applied = 4 ∧
      report.failures.length = 1 ∧
      (∃ r, t.supplierRisks.find? 1 = some r ∧ some (55 : Int) = some (r.alertThreshold.toNat : Int)) ∧
      ∃ p, t.parts.find? 10 = some p ∧ p.lowStockThreshold.map (fun n => (n.toNat : Int)) = none := by
  intro rows
  have haccepted : rows.filter oneSource.accepts = [⟨.supplier, 1, some 40⟩, ⟨.part, 10, some 5⟩,
      ⟨.supplier, 1, some 55⟩, ⟨.part, 10, none⟩] := by decide +kernel
  have hlast : oneSource.VersionsLast rows.length := by decide +kernel
  obtain ⟨-, report, t, hrun, hall, happlied, -, -, hsuppliers, hparts⟩ := last_accepted_row_wins oneSource rows hlast
  rw [haccepted] at happlied hsuppliers hparts
  have happlied : report.applied = 4 := happlied
  have hall : report.applied + report.failures.length = 5 := hall
  exact ⟨hlast, report, t, hrun, happlied, by omega, (hsuppliers ⟨1⟩).threshold _ rfl, (hparts ⟨10⟩).threshold _ rfl⟩

end Store

end SupplyRisk
