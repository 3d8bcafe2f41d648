import SupplyRisk.Proofs.Store.Consistent

/-!
# Stores up to versions

Attempts that fail leave risk records at higher versions than work that succeeds at once.  `Store.unversioned`
sets all versions to zero, so two stores agree up to versions when their unversioned stores are equal.  Saving
the next version of a stored record and a foreign writer's save change nothing up to versions.  A script that
neither reads nor writes a risk record does the same on a store and on the unversioned one (`run_unversioned`).
-/

namespace SupplyRisk

/-- The record at version zero. -/
def SupplierRisk.unversioned (r : SupplierRisk) : SupplierRisk := { r with version := 0 }

theorem SupplierRisk.rank_unversioned (r : SupplierRisk) :
    Ranked.rank r.unversioned = Ranked.rank r := rfl

/-- The record at version zero. -/
def PartRisk.unversioned (r : PartRisk) : PartRisk := { r with version := 0 }

theorem PartRisk.rank_unversioned (r : PartRisk) : Ranked.rank r.unversioned = Ranked.rank r := rfl

namespace RiskRecord

/-- The record at version zero. -/
def unversioned : RiskRecord → RiskRecord
  | supplier record => supplier record.unversioned
  | part record => part record.unversioned

@[simp] theorem check_unversioned (r : RiskRecord) : r.unversioned.check = r.check := by
  cases r <;> rfl

@[simp] theorem unversioned_next (r : RiskRecord) : r.next.unversioned = r.unversioned := by
  cases r <;> rfl

@[simp] theorem unversioned_unversioned (r : RiskRecord) : r.unversioned.unversioned = r.unversioned := by
  cases r <;> rfl

@[simp] theorem unversioned_fresh (threshold : UInt8) (entity : EntityRef) :
    (fresh threshold entity).unversioned = fresh threshold entity := by
  cases entity <;> rfl

end RiskRecord

namespace Store

/-- The store with all risk records at version zero. -/
def unversioned (s : Store) : Store :=
  { s with
    supplierRisks := s.supplierRisks.mapRows SupplierRisk.unversioned SupplierRisk.rank_unversioned
    partRisks := s.partRisks.mapRows PartRisk.unversioned PartRisk.rank_unversioned }

variable {s : Store} {r : RiskRecord} {entity : EntityRef}

@[simp] theorem unversioned_unversioned (s : Store) : s.unversioned.unversioned = s.unversioned := by
  have hsuppliers (r : SupplierRisk) : r.unversioned.unversioned = r.unversioned := rfl
  have hparts (r : PartRisk) : r.unversioned.unversioned = r.unversioned := rfl
  simp only [unversioned, Roster.mapRows, List.map_map]
  simp [Function.comp_def, hsuppliers, hparts]

theorem riskRecord?_unversioned (s : Store) (entity : EntityRef) :
    s.unversioned.riskRecord? entity = (s.riskRecord? entity).map RiskRecord.unversioned := by
  cases entity with
  | supplier id =>
      simp only [riskRecord?, unversioned, Roster.find?_mapRows, Option.map_map]
      rfl
  | part id =>
      simp only [riskRecord?, unversioned, Roster.find?_mapRows, Option.map_map]
      rfl

theorem unversioned_putRisk (s : Store) (r : RiskRecord) :
    (s.putRisk r).unversioned = s.unversioned.putRisk r.unversioned := by
  cases r with
  | supplier record => simp only [putRisk, unversioned, Roster.insert_mapRows]; rfl
  | part record => simp only [putRisk, unversioned, Roster.insert_mapRows]; rfl

/-- A record that is stored already can be put again without any effect. -/
theorem putRisk_of_stored (hstored : s.riskRecord? entity = some r) : s.putRisk r = s := by
  cases entity with
  | supplier id =>
      obtain ⟨record, hfind, rfl⟩ := Option.map_eq_some_iff.1 hstored
      simp only [putRisk, Roster.insert_of_mem (Roster.find?_eq_some_iff.1 hfind).1]
  | part id =>
      obtain ⟨record, hfind, rfl⟩ := Option.map_eq_some_iff.1 hstored
      simp only [putRisk, Roster.insert_of_mem (Roster.find?_eq_some_iff.1 hfind).1]

/-- Another version of the stored record makes no difference up to versions. -/
theorem unversioned_putRisk_of_stored {r' : RiskRecord} (hstored : s.riskRecord? entity = some r')
    (hsame : r.unversioned = r'.unversioned) : (s.putRisk r).unversioned = s.unversioned := by
  have hstored' : s.unversioned.riskRecord? entity = some r'.unversioned := by
    rw [riskRecord?_unversioned, hstored]
    rfl
  rw [unversioned_putRisk, hsame, putRisk_of_stored hstored']

theorem unversioned_bumpRisk (s : Store) (entity : EntityRef) :
    (s.bumpRisk entity).unversioned = s.unversioned := by
  cases hstored : s.riskRecord? entity with
  | none => rw [bumpRisk_of_none hstored]
  | some r =>
      rw [bumpRisk_of_some hstored]
      exact unversioned_putRisk_of_stored hstored r.unversioned_next

end Store

/-! ## Calls without risk records -/

/-- Calls that neither read nor write a risk record. -/
def StoreCall.ignoresRisks : StoreCall → Bool
  | .supplierRisk _ _ | .saveSupplierRisk _ | .supplierRisks => false
  | .partRisk _ | .savePartRisk _ | .partRisks => false
  | _ => true

theorem StoreCall.savedRisk?_of_ignoresRisks {c : StoreCall} (hignores : c.ignoresRisks = true) :
    c.savedRisk? = none := by
  cases c <;> first | rfl | cases hignores

namespace Store

theorem openAlert_unversioned (s : Store) (entity : EntityRef) :
    s.unversioned.openAlert entity = s.openAlert entity := rfl

theorem openRival?_unversioned (s : Store) (a : Alert) :
    s.unversioned.openRival? a = s.openRival? a := rfl

/-- Such a call answers the same on the unversioned store, and leaves the same behind. -/
theorem perform_unversioned {c : StoreCall} (hignores : c.ignoresRisks = true) (s : Store) :
    s.unversioned.perform c = (s.perform c).map (fun result => (result.1, result.2.unversioned)) := by
  -- Both sides look at the same rows of the other tables; what is left is to follow what is found there.
  cases c with
  | supplierRisk id threshold => cases hignores
  | saveSupplierRisk record => cases hignores
  | supplierRisks => cases hignores
  | partRisk id => cases hignores
  | savePartRisk record => cases hignores
  | partRisks => cases hignores
  | supplierHistory id =>
      show (s.supplierHistory id).map (·, s.unversioned) = ((s.supplierHistory id).map (·, s)).map _
      cases s.supplierHistory id <;> rfl
  | partHistory id =>
      show (s.partHistory id).map (·, s.unversioned) = ((s.partHistory id).map (·, s)).map _
      cases s.partHistory id <;> rfl
  | setPartStockThreshold id threshold =>
      have hparts : s.unversioned.parts = s.parts := rfl
      simp only [perform, setPartStockThreshold, hparts]
      cases s.parts.find? id.value.toNat <;> rfl
  | insertAlert draft =>
      simp only [perform, insertAlert, openAlert_unversioned]
      cases s.openAlert draft.entity <;> rfl
  | updateAlert alert =>
      have halerts : s.unversioned.alerts = s.alerts := rfl
      simp only [perform, updateAlert, halerts, openRival?_unversioned]
      cases s.alerts.contains alert.id.value.toNat <;> cases s.openRival? alert <;> rfl
  | alert id =>
      show (s.alert id).map (·, s.unversioned) = ((s.alert id).map (·, s)).map _
      cases s.alert id <;> rfl
  | insertRecommendation draft =>
      have hsuggested : s.unversioned.isSuggested draft.part draft.suggestedSupplier =
        s.isSuggested draft.part draft.suggestedSupplier := rfl
      simp only [perform, insertRecommendation, hsuggested]
      cases draft.check <;> cases s.isSuggested draft.part draft.suggestedSupplier <;> rfl
  | updateRecommendation record =>
      have hrows : s.unversioned.recommendations = s.recommendations := rfl
      simp only [perform, updateRecommendation, hrows]
      cases s.recommendations.contains record.id.value.toNat <;> rfl
  | recommendation id =>
      show (s.recommendation id).map (·, s.unversioned) = ((s.recommendation id).map (·, s)).map _
      cases s.recommendation id <;> rfl
  | resolveEvent id notes on =>
      have hevents : s.unversioned.events = s.events := rfl
      simp only [perform, resolveEvent, hevents]
      cases s.events.find? id.value.toNat <;> rfl
  | _ => rfl

end Store

namespace FaultyStore

/-- The store inside without versions, with the same faults to come. -/
def unversioned (f : FaultyStore) : FaultyStore := { f with store := f.store.unversioned }

theorem pass_unversioned {c : StoreCall} (hignores : c.ignoresRisks = true) (f : FaultyStore) :
    f.unversioned.pass c = ((f.pass c).1, (f.pass c).2.unversioned) := by
  have hperform : f.unversioned.store.perform c = _ := Store.perform_unversioned hignores f.store
  rw [pass, pass, hperform]
  cases f.store.perform c with
  | error e => rfl
  | ok result => rfl

theorem faults_unversioned (f : FaultyStore) : f.unversioned.faults = f.faults := rfl

theorem list_unversioned {target : String} {c : StoreCall} {f : FaultyStore}
    (hpass : f.unversioned.pass c = ((f.pass c).1, (f.pass c).2.unversioned)) :
    f.unversioned.list target c = ((f.list target c).1, (f.list target c).2.unversioned) := by
  unfold list
  rw [faults_unversioned]
  split
  · rfl
  · exact hpass

theorem readHistory_unversioned {entity : EntityRef} {c : StoreCall} {f : FaultyStore}
    (hpass : f.unversioned.pass c = ((f.pass c).1, (f.pass c).2.unversioned)) :
    f.unversioned.readHistory entity c =
      ((f.readHistory entity c).1, (f.readHistory entity c).2.unversioned) := by
  unfold readHistory
  rw [faults_unversioned]
  split
  · rfl
  · split
    · rfl
    · exact hpass

theorem perform_unversioned {c : StoreCall} (hignores : c.ignoresRisks = true) (f : FaultyStore) :
    f.unversioned.perform c = ((f.perform c).1, (f.perform c).2.unversioned) := by
  have hpass := pass_unversioned hignores f
  cases c with
  | supplierRisk id threshold => cases hignores
  | saveSupplierRisk record => cases hignores
  | partRisk id => cases hignores
  | savePartRisk record => cases hignores
  | suppliers => exact list_unversioned hpass
  | parts => exact list_unversioned hpass
  | supplierHistory id => exact readHistory_unversioned hpass
  | partHistory id => exact readHistory_unversioned hpass
  | insertEvent draft =>
      simp only [perform]
      rw [faults_unversioned]
      split
      · rfl
      · exact hpass
  | _ => exact hpass

/-- Numbers have nothing to do with versions. -/
theorem hasRoom_unversioned {c : StoreCall} (hignores : c.ignoresRisks = true) (f : FaultyStore) :
    f.unversioned.hasRoom c = f.hasRoom c := by
  have hnone := StoreCall.savedRisk?_of_ignoresRisks hignores
  have hnumber : f.unversioned.store.hasNumberFor c = f.store.hasNumberFor c := by
    cases c <;> rfl
  rw [hasRoom_of_unsaved hnone, hasRoom_of_unsaved hnone, hnumber, perform_unversioned hignores]

end FaultyStore

/-- A script without calls about risk records does the same on the unversioned store. -/
theorem Script.run_unversioned {α : Type} {x : Script α}
    (hx : x.Only (fun c => c.ignoresRisks = true)) (f : FaultyStore) :
    x.run f.unversioned = ((x.run f).1, (x.run f).2.unversioned) := by
  induction x generalizing f with
  | done a => rfl
  | stop cause => rfl
  | call c next ih =>
      by_cases hroom : f.hasRoom c = true
      · have hroom' := (FaultyStore.hasRoom_unversioned hx.1 f).trans hroom
        rw [run_call hroom, run_call hroom', FaultyStore.perform_unversioned hx.1]
        exact ih _ (hx.2 _) _
      · have hfull : ¬ f.unversioned.hasRoom c = true := by rwa [FaultyStore.hasRoom_unversioned hx.1]
        have hnone := StoreCall.savedRisk?_of_ignoresRisks hx.1
        rw [run_call_of_full hroom, run_call_of_full hfull, FaultyStore.giveUp_of_unsaved hnone,
          FaultyStore.giveUp_of_unsaved hnone]

end SupplyRisk
