import SupplyRisk.Proofs.Store.Effect

/-!
# Risk records of both kinds

Suppliers and parts have records of different types, which the store reads, saves and bumps in the same way.
`RiskRecord` joins the two types, so that what the store promises is stated once.  Each of the three
operations either puts one record into the store or leaves it alone: `saveRisk_eq_ok_iff` says when a save is
accepted, and `riskRecord?_putRisk` what a record that is put changes.
-/

namespace SupplyRisk

/-- The risk record of a supplier or a part. -/
inductive RiskRecord where
  | supplier (record : SupplierRisk)
  | part (record : PartRisk)

namespace RiskRecord

def entity : RiskRecord → EntityRef
  | supplier record => record.entity
  | part record => record.entity

def version : RiskRecord → UInt64
  | supplier record => record.version
  | part record => record.version

def level : RiskRecord → Level
  | supplier record => record.level
  | part record => record.level

/-- What every save checks. -/
def check : RiskRecord → Except RiskError Unit
  | supplier record => record.check
  | part record => record.check

/-- The record with its version raised, as a save stores it. -/
def next : RiskRecord → RiskRecord
  | supplier record => supplier { record with version := record.version + 1 }
  | part record => part { record with version := record.version + 1 }

/-- The record of an entity that was never assessed. -/
def fresh (defaultThreshold : UInt8) : EntityRef → RiskRecord
  | .supplier id => supplier (.new id defaultThreshold)
  | .part id => part (.new id)

@[simp] theorem entity_next (r : RiskRecord) : r.next.entity = r.entity := by cases r <;> rfl

@[simp] theorem version_next (r : RiskRecord) : r.next.version = r.version + 1 := by cases r <;> rfl

@[simp] theorem level_next (r : RiskRecord) : r.next.level = r.level := by cases r <;> rfl

@[simp] theorem entity_fresh (threshold : UInt8) (entity : EntityRef) :
    (fresh threshold entity).entity = entity := by cases entity <;> rfl

/-- A version below the greatest word is one higher in the next record. -/
theorem toNat_version_next {r : RiskRecord} (hfit : r.version.toNat + 1 < Word.count64) :
    r.next.version.toNat = r.version.toNat + 1 := by
  rw [version_next, UInt64.toNat_add]
  exact Nat.mod_eq_of_lt hfit

end RiskRecord

theorem SupplierId.toNat_inj {i j : SupplierId} : i.value.toNat = j.value.toNat ↔ i = j := by
  constructor
  · intro h
    exact congrArg SupplierId.mk (UInt64.toNat_inj.1 h)
  · rintro rfl
    rfl

theorem PartId.toNat_inj {i j : PartId} : i.value.toNat = j.value.toNat ↔ i = j := by
  constructor
  · intro h
    exact congrArg PartId.mk (UInt64.toNat_inj.1 h)
  · rintro rfl
    rfl

/-- The record that a call asks to save. -/
def StoreCall.savedRisk? : StoreCall → Option RiskRecord
  | .saveSupplierRisk record => some (.supplier record)
  | .savePartRisk record => some (.part record)
  | _ => none

namespace Store

/-- The stored risk record of an entity. -/
def riskRecord? (s : Store) : EntityRef → Option RiskRecord
  | .supplier id => (s.supplierRisks.find? id.value.toNat).map .supplier
  | .part id => (s.partRisks.find? id.value.toNat).map .part

theorem riskRecord?_congr {s t : Store} (hsuppliers : t.supplierRisks = s.supplierRisks)
    (hparts : t.partRisks = s.partRisks) (z : EntityRef) : t.riskRecord? z = s.riskRecord? z := by
  cases z with
  | supplier id => rw [riskRecord?, riskRecord?, hsuppliers]
  | part id => rw [riskRecord?, riskRecord?, hparts]

/-- The version that a save has to name; that of a missing record is zero. -/
def riskVersion (s : Store) (entity : EntityRef) : UInt64 :=
  ((s.riskRecord? entity).map (·.version)).getD 0

/-- The store with a risk record over the one of its entity. -/
def putRisk (s : Store) : RiskRecord → Store
  | .supplier record => { s with supplierRisks := s.supplierRisks.insert record }
  | .part record => { s with partRisks := s.partRisks.insert record }

/-- The call that reads the record of an entity, and creates it if there is none. -/
def readRisk (s : Store) (defaultThreshold : UInt8) :
    EntityRef → Except RiskError RiskRecord × Store
  | .supplier id =>
      ((s.answerTo (.supplierRisk id defaultThreshold)).map .supplier,
        s.afterCall (.supplierRisk id defaultThreshold))
  | .part id => ((s.answerTo (.partRisk id)).map .part, s.afterCall (.partRisk id))

/-- The call that saves a record. -/
def saveRisk (s : Store) : RiskRecord → Except RiskError RiskRecord × Store
  | .supplier record =>
      ((s.answerTo (.saveSupplierRisk record)).map .supplier, s.afterCall (.saveSupplierRisk record))
  | .part record =>
      ((s.answerTo (.savePartRisk record)).map .part, s.afterCall (.savePartRisk record))

/-- Raises the stored version of an entity, as the save of a foreign writer would. -/
def bumpRisk (s : Store) : EntityRef → Store
  | .supplier id => s.bumpSupplierRisk id
  | .part id => s.bumpPartRisk id

variable {s : Store} {r saved : RiskRecord} {entity : EntityRef}

theorem riskVersion_supplier (s : Store) (id : SupplierId) :
    s.riskVersion (.supplier id) =
      ((s.supplierRisks.find? id.value.toNat).map (·.version)).getD 0 := by
  rw [riskVersion, riskRecord?, Option.map_map]
  rfl

theorem riskVersion_part (s : Store) (id : PartId) :
    s.riskVersion (.part id) = ((s.partRisks.find? id.value.toNat).map (·.version)).getD 0 := by
  rw [riskVersion, riskRecord?, Option.map_map]
  rfl

/-- Records are stored under their own entity. -/
theorem entity_of_riskRecord? (hstored : s.riskRecord? entity = some r) : r.entity = entity := by
  cases entity with
  | supplier id =>
      obtain ⟨record, hfind, rfl⟩ := Option.map_eq_some_iff.1 hstored
      exact congrArg EntityRef.supplier (SupplierId.toNat_inj.1 (Roster.find?_eq_some_iff.1 hfind).2)
  | part id =>
      obtain ⟨record, hfind, rfl⟩ := Option.map_eq_some_iff.1 hstored
      exact congrArg EntityRef.part (PartId.toNat_inj.1 (Roster.find?_eq_some_iff.1 hfind).2)

/-- A record that is put is the one of its entity, and no other entity notices. -/
theorem riskRecord?_putRisk (s : Store) (r : RiskRecord) (entity : EntityRef) :
    (s.putRisk r).riskRecord? entity =
      if r.entity = entity then some r else s.riskRecord? entity := by
  cases r with
  | supplier record =>
      cases entity with
      | supplier id =>
          show ((s.supplierRisks.insert record).find? id.value.toNat).map _ = _
          rw [Roster.find?_insert]
          -- Suppliers are stored by number, which is their entity up to the kind.
          have hkey : Ranked.rank record = id.value.toNat ↔
              (RiskRecord.supplier record).entity = .supplier id :=
            SupplierId.toNat_inj.trans ⟨congrArg _, fun h => EntityRef.supplier.inj h⟩
          by_cases hsame : (RiskRecord.supplier record).entity = .supplier id
          · rw [if_pos (hkey.2 hsame), if_pos hsame]
            rfl
          · rw [if_neg (mt hkey.1 hsame), if_neg hsame]
            rfl
      | part id => exact (if_neg (fun h => nomatch h)).symm
  | part record =>
      cases entity with
      | supplier id => exact (if_neg (fun h => nomatch h)).symm
      | part id =>
          show ((s.partRisks.insert record).find? id.value.toNat).map _ = _
          rw [Roster.find?_insert]
          have hkey : Ranked.rank record = id.value.toNat ↔
              (RiskRecord.part record).entity = .part id :=
            PartId.toNat_inj.trans ⟨congrArg _, fun h => EntityRef.part.inj h⟩
          by_cases hsame : (RiskRecord.part record).entity = .part id
          · rw [if_pos (hkey.2 hsame), if_pos hsame]
            rfl
          · rw [if_neg (mt hkey.1 hsame), if_neg hsame]
            rfl

/-- Of two records of an entity the last one stays. -/
theorem putRisk_putRisk {r' : RiskRecord} (hentity : r.entity = r'.entity) :
    (s.putRisk r).putRisk r' = s.putRisk r' := by
  cases r with
  | supplier record =>
      cases r' with
      | supplier record' =>
          show { s with supplierRisks := (s.supplierRisks.insert record).insert record' } = _
          rw [Roster.insert_insert (SupplierId.toNat_inj.2 (EntityRef.supplier.inj hentity))]
          rfl
      | part record' => cases hentity
  | part record =>
      cases r' with
      | supplier record' => cases hentity
      | part record' =>
          show { s with partRisks := (s.partRisks.insert record).insert record' } = _
          rw [Roster.insert_insert (PartId.toNat_inj.2 (EntityRef.part.inj hentity))]
          rfl

/-- Records of different entities can be put in any order. -/
theorem putRisk_comm {r' : RiskRecord} (hentity : r.entity ≠ r'.entity) :
    (s.putRisk r).putRisk r' = (s.putRisk r').putRisk r := by
  cases r with
  | supplier record =>
      cases r' with
      | supplier record' =>
          have hrank : Ranked.rank record ≠ Ranked.rank record' := fun h =>
            hentity (congrArg EntityRef.supplier (SupplierId.toNat_inj.1 h))
          show { s with supplierRisks := (s.supplierRisks.insert record).insert record' } = _
          rw [Roster.insert_comm hrank]
          rfl
      | part record' => rfl
  | part record =>
      cases r' with
      | supplier record' => rfl
      | part record' =>
          have hrank : Ranked.rank record ≠ Ranked.rank record' := fun h =>
            hentity (congrArg EntityRef.part (PartId.toNat_inj.1 h))
          show { s with partRisks := (s.partRisks.insert record).insert record' } = _
          rw [Roster.insert_comm hrank]
          rfl

/-- A record that is created leaves those that are stored alone. -/
theorem riskRecord?_putRisk_fresh {threshold : UInt8} {other : EntityRef}
    (habsent : s.riskRecord? other = none) (hstored : s.riskRecord? entity = some r) :
    (s.putRisk (.fresh threshold other)).riskRecord? entity = some r := by
  have hne : other ≠ entity := by
    rintro rfl
    rw [hstored] at habsent
    cases habsent
  rw [riskRecord?_putRisk, RiskRecord.entity_fresh, if_neg hne, hstored]

/-! ## Saving -/

/-- A save is accepted when the record passes its check at the stored version, and stores the next
record. -/
theorem saveRisk_of_ok (hok : (s.saveRisk r).1 = .ok saved) :
    r.check = .ok () ∧ s.riskVersion r.entity = r.version ∧ saved = r.next ∧
      (s.saveRisk r).2 = s.putRisk saved := by
  cases r with
  | supplier record =>
      obtain ⟨record', hanswer, rfl⟩ := map_eq_ok_iff.1 hok
      have hperform : s.saveSupplierRisk record = .ok (record', s.afterCall _) :=
        answerTo_eq_ok_iff.1 hanswer
      obtain ⟨hcheck, hversion, rfl, hafter⟩ := saveSupplierRisk_eq_ok_iff.1 hperform
      exact ⟨hcheck, (riskVersion_supplier s _).trans hversion, rfl, hafter⟩
  | part record =>
      obtain ⟨record', hanswer, rfl⟩ := map_eq_ok_iff.1 hok
      have hperform : s.savePartRisk record = .ok (record', s.afterCall _) :=
        answerTo_eq_ok_iff.1 hanswer
      obtain ⟨hcheck, hversion, rfl, hafter⟩ := savePartRisk_eq_ok_iff.1 hperform
      exact ⟨hcheck, (riskVersion_part s _).trans hversion, rfl, hafter⟩

theorem saveRisk_accepts (hcheck : r.check = .ok ()) (hversion : s.riskVersion r.entity = r.version) :
    (s.saveRisk r).1 = .ok r.next := by
  cases r with
  | supplier record =>
      have hstored : ((s.supplierRisks.find? record.supplier.value.toNat).map (·.version)).getD 0 =
          record.version := (riskVersion_supplier s _).symm.trans hversion
      have hperform := saveSupplierRisk_eq_ok_iff.2 ⟨hcheck, hstored, rfl, rfl⟩
      have hanswer := (answerTo_of_perform (c := .saveSupplierRisk record) hperform).1
      show (s.answerTo (.saveSupplierRisk record)).map _ = _
      rw [hanswer]
      rfl
  | part record =>
      have hstored : ((s.partRisks.find? record.part.value.toNat).map (·.version)).getD 0 =
          record.version := (riskVersion_part s _).symm.trans hversion
      have hperform := savePartRisk_eq_ok_iff.2 ⟨hcheck, hstored, rfl, rfl⟩
      have hanswer := (answerTo_of_perform (c := .savePartRisk record) hperform).1
      show (s.answerTo (.savePartRisk record)).map _ = _
      rw [hanswer]
      rfl

/-- The exact condition under which a save is accepted. -/
theorem saveRisk_eq_ok_iff :
    (s.saveRisk r).1 = .ok saved ↔
      r.check = .ok () ∧ s.riskVersion r.entity = r.version ∧ saved = r.next := by
  constructor
  · intro hok
    obtain ⟨hcheck, hversion, hsaved, -⟩ := saveRisk_of_ok hok
    exact ⟨hcheck, hversion, hsaved⟩
  · rintro ⟨hcheck, hversion, rfl⟩
    exact saveRisk_accepts hcheck hversion

theorem saveRisk_of_error {e : RiskError} (hrefused : (s.saveRisk r).1 = .error e) :
    (s.saveRisk r).2 = s := by
  cases r with
  | supplier record => exact afterCall_of_error (map_eq_error_iff.1 hrefused)
  | part record => exact afterCall_of_error (map_eq_error_iff.1 hrefused)

theorem afterCall_of_savedRisk {c : StoreCall} (hsaved : c.savedRisk? = some r) :
    s.afterCall c = (s.saveRisk r).2 := by
  cases c <;> cases hsaved <;> rfl

/-! ## Reading and bumping -/

/-- A read answers with the stored record and leaves the store alone, or it stores a fresh record. -/
theorem readRisk_of_ok {threshold : UInt8} (hok : (s.readRisk threshold entity).1 = .ok r) :
    s.riskRecord? entity = some r ∧ (s.readRisk threshold entity).2 = s ∨
      s.riskRecord? entity = none ∧ r = .fresh threshold entity ∧
        (s.readRisk threshold entity).2 = s.putRisk r := by
  cases entity with
  | supplier id =>
      obtain ⟨record, hanswer, rfl⟩ := map_eq_ok_iff.1 hok
      have hperform : s.supplierRisk id threshold = .ok (record, s.afterCall _) :=
        answerTo_eq_ok_iff.1 hanswer
      simp only [readRisk, riskRecord?]
      generalize s.afterCall _ = after at hperform ⊢
      unfold supplierRisk at hperform
      split at hperform
      · rename_i hfind
        cases hperform
        exact .inl ⟨by rw [hfind]; rfl, rfl⟩
      · rename_i hfind
        split at hperform
        · cases hperform
          exact .inr ⟨by rw [hfind]; rfl, rfl, rfl⟩
        · cases hperform
  | part id =>
      obtain ⟨record, hanswer, rfl⟩ := map_eq_ok_iff.1 hok
      have hperform : s.partRisk id = .ok (record, s.afterCall _) := answerTo_eq_ok_iff.1 hanswer
      simp only [readRisk, riskRecord?]
      generalize s.afterCall _ = after at hperform ⊢
      unfold partRisk at hperform
      split at hperform
      · rename_i hfind
        cases hperform
        exact .inl ⟨by rw [hfind]; rfl, rfl⟩
      · rename_i hfind
        split at hperform
        · cases hperform
          exact .inr ⟨by rw [hfind]; rfl, rfl, rfl⟩
        · cases hperform

/-- What a read answers with is stored. -/
theorem riskRecord?_readRisk {threshold : UInt8} (hok : (s.readRisk threshold entity).1 = .ok r) :
    (s.readRisk threshold entity).2.riskRecord? entity = some r := by
  rcases readRisk_of_ok hok with ⟨hstored, hafter⟩ | ⟨-, rfl, hafter⟩
  · rw [hafter, hstored]
  · rw [hafter, riskRecord?_putRisk, RiskRecord.entity_fresh, if_pos rfl]

theorem readRisk_of_error {threshold : UInt8} {e : RiskError}
    (hrefused : (s.readRisk threshold entity).1 = .error e) :
    (s.readRisk threshold entity).2 = s := by
  cases entity with
  | supplier id => exact afterCall_of_error (map_eq_error_iff.1 hrefused)
  | part id => exact afterCall_of_error (map_eq_error_iff.1 hrefused)

theorem bumpRisk_of_some (hstored : s.riskRecord? entity = some r) :
    s.bumpRisk entity = s.putRisk r.next := by
  cases entity with
  | supplier id =>
      obtain ⟨record, hfind, rfl⟩ := Option.map_eq_some_iff.1 hstored
      simp only [bumpRisk, bumpSupplierRisk, hfind]
      rfl
  | part id =>
      obtain ⟨record, hfind, rfl⟩ := Option.map_eq_some_iff.1 hstored
      simp only [bumpRisk, bumpPartRisk, hfind]
      rfl

theorem bumpRisk_of_none (habsent : s.riskRecord? entity = none) : s.bumpRisk entity = s := by
  cases entity with
  | supplier id =>
      have hfind : s.supplierRisks.find? id.value.toNat = none := Option.map_eq_none_iff.1 habsent
      simp only [bumpRisk, bumpSupplierRisk, hfind]
  | part id =>
      have hfind : s.partRisks.find? id.value.toNat = none := Option.map_eq_none_iff.1 habsent
      simp only [bumpRisk, bumpPartRisk, hfind]

theorem bumpRisk_cases (s : Store) (entity : EntityRef) :
    s.bumpRisk entity = s ∨ ∃ r, s.riskRecord? entity = some r ∧ s.bumpRisk entity = s.putRisk r.next := by
  cases hstored : s.riskRecord? entity with
  | none => exact .inl (bumpRisk_of_none hstored)
  | some r => exact .inr ⟨r, rfl, bumpRisk_of_some hstored⟩

/-- The calls that write a risk record: one that creates it and one that saves it. -/
theorem riskRecord?_of_effect {s' : Store} {c : StoreCall} (heffect : s.Effect c s') :
    (∀ entity, s'.riskRecord? entity = s.riskRecord? entity) ∨
      (∃ threshold entity, s.riskRecord? entity = none ∧
        s' = s.putRisk (.fresh threshold entity)) ∨
      ∃ r, c.savedRisk? = some r ∧ s' = s.putRisk r.next := by
  cases heffect with
  | newSupplierRisk threshold habsent hknown =>
      exact .inr (.inl ⟨threshold, .supplier _, by simp [riskRecord?, habsent], rfl⟩)
  | newPartRisk habsent hknown =>
      exact .inr (.inl ⟨0, .part _, by simp [riskRecord?, habsent], rfl⟩)
  | supplierRisk hcheck hversion => exact .inr (.inr ⟨_, rfl, rfl⟩)
  | partRisk hcheck hversion => exact .inr (.inr ⟨_, rfl, rfl⟩)
  | _ => exact .inl fun entity => by cases entity <;> rfl

end Store

/-! ## Other writers -/

namespace FaultyStore

variable {f : FaultyStore} {c : StoreCall}

/-- All that another writer does is to raise the version of a record. -/
theorem raced_cases (f : FaultyStore) (c : StoreCall) :
    (f.raced c).store = f.store ∨
      ∃ r, f.store.riskRecord? r.entity = some r ∧ (f.raceFits c = true → Word.hasNext r.version = true) ∧
        (f.raced c).store = f.store.putRisk r.next := by
  -- Both kinds of saves are raced in the same way.
  have hrace (entity : EntityRef)
      (hfits : f.raceFits c = (!f.faults.conflictOnce.contains entity.rank ||
        (f.store.riskRecord? entity).all (Word.hasNext ·.version)))
      (hraced : (f.raced c).store = (f.raceWriter entity (·.bumpRisk entity)).store) :
      (f.raced c).store = f.store ∨
        ∃ r, f.store.riskRecord? r.entity = some r ∧ (f.raceFits c = true → Word.hasNext r.version = true) ∧
          (f.raced c).store = f.store.putRisk r.next := by
    rw [hraced, raceWriter]
    split
    · rename_i hfault
      rcases f.store.bumpRisk_cases entity with hsame | ⟨r, hstored, hbump⟩
      · exact .inl hsame
      · refine .inr ⟨r, ?_, fun h => ?_, hbump⟩
        · rwa [Store.entity_of_riskRecord? hstored]
        · rwa [hfits, hfault, hstored, Option.all_some] at h
    · exact .inl rfl
  cases c with
  | saveSupplierRisk record =>
      refine hrace (.supplier record.supplier) ?_ rfl
      show _ = (!_ || Option.all _ (Option.map _ _))
      rw [Option.all_map]
      rfl
  | savePartRisk record =>
      refine hrace (.part record.part) ?_ rfl
      show _ = (!_ || Option.all _ (Option.map _ _))
      rw [Option.all_map]
      rfl
  | _ => exact .inl rfl

/-- Other writers strike at saves only. -/
theorem raced_of_unsaved (hnone : c.savedRisk? = none) : f.raced c = f := by
  cases c <;> first | rfl | cases hnone

theorem raceFits_of_unsaved (hnone : c.savedRisk? = none) : f.raceFits c = true := by
  cases c <;> first | rfl | cases hnone

/-- A call that is given up leaves everything alone if it is no save. -/
theorem giveUp_of_unsaved (hnone : c.savedRisk? = none) : f.giveUp c = f := by
  rw [giveUp, if_pos (raceFits_of_unsaved hnone), raced_of_unsaved hnone]

theorem hasRoom_of_unsaved (hnone : c.savedRisk? = none) :
    f.hasRoom c = (f.store.hasNumberFor c || !(f.perform c).1.isOk) := by
  rw [hasRoom, raceFits_of_unsaved hnone, raced_of_unsaved hnone, Bool.true_and]

end FaultyStore

end SupplyRisk
