import SupplyRisk.Proofs.Store.Unversioned

/-!
# What assessments read

An assessment reads a history, which comes from the inventory alone, and the risk record of the entity, which is
created for entities that the inventory knows.  `Store.withRisk` is the store after that read.  Planners change
the inventory between assessments; `Store.restock` puts any other inventory in its place.
-/

namespace SupplyRisk

/-- The part of a store that the engine reads and planners change. -/
structure Inventory where
  suppliers : Roster Supplier
  parts : Roster Part
  links : List SupplierPart
  orderLines : List OrderLine
  stockItems : List StockItem

namespace Store

def inventory (s : Store) : Inventory := ⟨s.suppliers, s.parts, s.links, s.orderLines, s.stockItems⟩

/-- The store with another inventory, and everything else as it is. -/
def restock (s : Store) (i : Inventory) : Store :=
  { s with
    suppliers := i.suppliers
    parts := i.parts
    links := i.links
    orderLines := i.orderLines
    stockItems := i.stockItems }

variable {s t : Store} {entity : EntityRef} {threshold : UInt8} {r : RiskRecord}

@[simp] theorem inventory_putRisk (s : Store) (r : RiskRecord) :
    (s.putRisk r).inventory = s.inventory := by
  cases r <;> rfl

@[simp] theorem inventory_unversioned (s : Store) : s.unversioned.inventory = s.inventory := rfl

/-- A new order line is one of the changes that `restock` makes; so are the other additions. -/
example (s : Store) (line : OrderLine) :
    s.addOrderLine line =
      s.restock { s.inventory with orderLines := s.inventory.orderLines ++ [line] } := rfl

/-- Stores that agree up to versions differ in risk records only. -/
theorem same_of_unversioned (hsame : s.unversioned = t.unversioned) :
    s.inventory = t.inventory ∧ s.alerts = t.alerts ∧ s.recommendations = t.recommendations ∧
      s.events = t.events := by
  have hinventory : s.unversioned.inventory = t.unversioned.inventory := congrArg inventory hsame
  have halerts : s.unversioned.alerts = t.unversioned.alerts := congrArg alerts hsame
  have hrecommendations : s.unversioned.recommendations = t.unversioned.recommendations :=
    congrArg recommendations hsame
  have hevents : s.unversioned.events = t.unversioned.events := congrArg events hsame
  exact ⟨hinventory, halerts, hrecommendations, hevents⟩

/-- The inventory has the supplier or part. -/
def knows (s : Store) : EntityRef → Bool
  | .supplier id => s.suppliers.contains id.value.toNat
  | .part id => s.parts.contains id.value.toNat

/-! ## Histories -/

theorem supplierHistory_congr (hinventory : t.inventory = s.inventory) (id : SupplierId) :
    t.supplierHistory id = s.supplierHistory id := by
  have hsuppliers : t.suppliers = s.suppliers := congrArg Inventory.suppliers hinventory
  have hlines : t.orderLines = s.orderLines := congrArg Inventory.orderLines hinventory
  have hlinks : t.links = s.links := congrArg Inventory.links hinventory
  simp only [supplierHistory, hsuppliers, hlines, hlinks]

theorem partHistory_congr (hinventory : t.inventory = s.inventory) (id : PartId) :
    t.partHistory id = s.partHistory id := by
  have hactive : t.isActive = s.isActive := by
    funext supplier
    exact congrArg (fun i : Inventory => (i.suppliers.find? supplier.value.toNat).any (·.active))
      hinventory
  have hparts : t.parts = s.parts := congrArg Inventory.parts hinventory
  have hlines : t.orderLines = s.orderLines := congrArg Inventory.orderLines hinventory
  have hlinks : t.links = s.links := congrArg Inventory.links hinventory
  have hitems : t.stockItems = s.stockItems := congrArg Inventory.stockItems hinventory
  simp only [partHistory, hactive, hparts, hlines, hlinks, hitems]

theorem knows_congr (hinventory : t.inventory = s.inventory) (entity : EntityRef) :
    t.knows entity = s.knows entity := by
  cases entity with
  | supplier id =>
      exact congrArg (fun i : Inventory => i.suppliers.contains id.value.toNat) hinventory
  | part id => exact congrArg (fun i : Inventory => i.parts.contains id.value.toNat) hinventory

theorem supplierHistory_of_known {id : SupplierId} (hknown : s.knows (.supplier id) = true) :
    ∃ h, s.supplierHistory id = .ok h := by
  obtain ⟨supplier, hfind⟩ := Roster.contains_iff.1 hknown
  simp only [supplierHistory, hfind]
  exact ⟨_, rfl⟩

theorem supplierHistory_of_unknown {id : SupplierId} (hunknown : s.knows (.supplier id) = false) :
    s.supplierHistory id = .error (.notFound (.supplier id)) := by
  have hfind : s.suppliers.find? id.value.toNat = none := by
    simpa [knows, Roster.contains] using hunknown
  simp only [supplierHistory, hfind]

theorem partHistory_of_known {id : PartId} (hknown : s.knows (.part id) = true) :
    ∃ h, s.partHistory id = .ok h := by
  obtain ⟨part, hfind⟩ := Roster.contains_iff.1 hknown
  simp only [partHistory, hfind]
  exact ⟨_, rfl⟩

theorem partHistory_of_unknown {id : PartId} (hunknown : s.knows (.part id) = false) :
    s.partHistory id = .error (.notFound (.part id)) := by
  have hfind : s.parts.find? id.value.toNat = none := by
    simpa [knows, Roster.contains] using hunknown
  simp only [partHistory, hfind]

/-! ## Records that are read -/

/-- The record that a read answers with. -/
def riskOrFresh (s : Store) (threshold : UInt8) (entity : EntityRef) : RiskRecord :=
  (s.riskRecord? entity).getD (.fresh threshold entity)

/-- The store after the record of an entity has been read: a known entity has a record then. -/
def withRisk (s : Store) (threshold : UInt8) (entity : EntityRef) : Store :=
  if s.knows entity then s.putRisk (s.riskOrFresh threshold entity) else s

@[simp] theorem entity_riskOrFresh (s : Store) (threshold : UInt8) (entity : EntityRef) :
    (s.riskOrFresh threshold entity).entity = entity := by
  unfold riskOrFresh
  cases hstored : s.riskRecord? entity with
  | none => exact RiskRecord.entity_fresh threshold entity
  | some r => exact entity_of_riskRecord? hstored

theorem riskOrFresh_of_stored (hstored : s.riskRecord? entity = some r) :
    s.riskOrFresh threshold entity = r := by
  rw [riskOrFresh, hstored, Option.getD_some]

theorem riskOrFresh_unversioned (s : Store) (threshold : UInt8) (entity : EntityRef) :
    s.unversioned.riskOrFresh threshold entity = (s.riskOrFresh threshold entity).unversioned := by
  rw [riskOrFresh, riskOrFresh, riskRecord?_unversioned]
  cases s.riskRecord? entity with
  | none => exact (RiskRecord.unversioned_fresh threshold entity).symm
  | some r => rfl

/-- A stored record is read without any effect. -/
theorem withRisk_of_stored (hstored : s.riskRecord? entity = some r) :
    s.withRisk threshold entity = s := by
  unfold withRisk
  split
  · rw [riskOrFresh_of_stored hstored, putRisk_of_stored hstored]
  · rfl

theorem withRisk_of_known (hknown : s.knows entity = true) :
    s.withRisk threshold entity = s.putRisk (s.riskOrFresh threshold entity) := if_pos hknown

theorem withRisk_of_unknown (hunknown : s.knows entity = false) :
    s.withRisk threshold entity = s := if_neg (by simp [hunknown])

/-- A record that is put takes the place of the one that was read. -/
theorem putRisk_withRisk (hentity : r.entity = entity) :
    (s.withRisk threshold entity).putRisk r = s.putRisk r := by
  unfold withRisk
  split
  · exact putRisk_putRisk ((entity_riskOrFresh s threshold entity).trans hentity.symm)
  · rfl

/-- The read of the record of a known supplier. -/
theorem supplierRisk_of_known {id : SupplierId} (hknown : s.knows (.supplier id) = true)
    (threshold : UInt8) :
    ∃ record, record.supplier = id ∧
      s.riskOrFresh threshold (.supplier id) = .supplier record ∧
      s.supplierRisk id threshold = .ok (record, s.withRisk threshold (.supplier id)) := by
  cases hfind : s.supplierRisks.find? id.value.toNat with
  | some record =>
      have hstored : s.riskRecord? (.supplier id) = some (.supplier record) := by
        rw [riskRecord?, hfind]
        rfl
      refine ⟨record, SupplierId.toNat_inj.1 (Roster.find?_eq_some_iff.1 hfind).2,
        riskOrFresh_of_stored hstored, ?_⟩
      simp only [supplierRisk, hfind, withRisk_of_stored hstored]
  | none =>
      have hfresh : s.riskOrFresh threshold (.supplier id) = .supplier (.new id threshold) := by
        rw [riskOrFresh, riskRecord?, hfind]
        rfl
      have hcontains : s.suppliers.contains id.value.toNat = true := hknown
      refine ⟨.new id threshold, rfl, hfresh, ?_⟩
      rw [withRisk_of_known hknown, hfresh]
      simp only [supplierRisk, hfind, hcontains, if_true, putRisk]

/-- The read of the record of a known part. -/
theorem partRisk_of_known {id : PartId} (hknown : s.knows (.part id) = true) (threshold : UInt8) :
    ∃ record, record.part = id ∧
      s.riskOrFresh threshold (.part id) = .part record ∧
      s.partRisk id = .ok (record, s.withRisk threshold (.part id)) := by
  cases hfind : s.partRisks.find? id.value.toNat with
  | some record =>
      have hstored : s.riskRecord? (.part id) = some (.part record) := by
        rw [riskRecord?, hfind]
        rfl
      refine ⟨record, PartId.toNat_inj.1 (Roster.find?_eq_some_iff.1 hfind).2,
        riskOrFresh_of_stored hstored, ?_⟩
      simp only [partRisk, hfind, withRisk_of_stored hstored]
  | none =>
      have hfresh : s.riskOrFresh threshold (.part id) = .part (.new id) := by
        rw [riskOrFresh, riskRecord?, hfind]
        rfl
      have hcontains : s.parts.contains id.value.toNat = true := hknown
      refine ⟨.new id, rfl, hfresh, ?_⟩
      rw [withRisk_of_known hknown, hfresh]
      simp only [partRisk, hfind, hcontains, if_true, putRisk]

theorem riskRecord?_withRisk (hknown : s.knows entity = true) :
    (s.withRisk threshold entity).riskRecord? entity = some (s.riskOrFresh threshold entity) := by
  rw [withRisk_of_known hknown, riskRecord?_putRisk, entity_riskOrFresh, if_pos rfl]

@[simp] theorem inventory_withRisk (s : Store) (threshold : UInt8) (entity : EntityRef) :
    (s.withRisk threshold entity).inventory = s.inventory := by
  unfold withRisk
  split
  · exact inventory_putRisk s _
  · rfl

@[simp] theorem knows_withRisk (s : Store) (threshold : UInt8) (entity other : EntityRef) :
    (s.withRisk threshold entity).knows other = s.knows other :=
  knows_congr (inventory_withRisk s threshold entity) other

/-- A read leaves the answers of other reads as they were. -/
theorem riskOrFresh_withRisk (s : Store) (threshold : UInt8) (entity other : EntityRef) :
    (s.withRisk threshold entity).riskOrFresh threshold other = s.riskOrFresh threshold other := by
  unfold withRisk
  split
  · rw [riskOrFresh, riskRecord?_putRisk, entity_riskOrFresh]
    split
    · rename_i hsame
      subst hsame
      rfl
    · rfl
  · rfl

/-- It makes no difference whether a record is read before or after one is put. -/
theorem putRisk_withRisk_comm (s : Store) (threshold : UInt8) (entity : EntityRef) (r : RiskRecord) :
    (s.withRisk threshold entity).putRisk r = (s.putRisk r).withRisk threshold entity := by
  by_cases hentity : r.entity = entity
  · have hstored : (s.putRisk r).riskRecord? entity = some r := by rw [riskRecord?_putRisk, if_pos hentity]
    rw [putRisk_withRisk hentity, withRisk_of_stored hstored]
  · have hknows : (s.putRisk r).knows entity = s.knows entity := knows_congr (inventory_putRisk s r) entity
    have hrecord : (s.putRisk r).riskOrFresh threshold entity = s.riskOrFresh threshold entity := by
      rw [riskOrFresh, riskRecord?_putRisk, if_neg hentity, riskOrFresh]
    rw [withRisk, withRisk, hknows, hrecord]
    split
    · exact putRisk_comm fun h => hentity (h.symm.trans (entity_riskOrFresh s threshold entity))
    · rfl

theorem withRisk_comm (s : Store) (threshold : UInt8) (entity other : EntityRef) :
    (s.withRisk threshold entity).withRisk threshold other =
      (s.withRisk threshold other).withRisk threshold entity := by
  cases hknown : s.knows other with
  | false => rw [withRisk_of_unknown hknown, withRisk_of_unknown ((knows_withRisk ..).trans hknown)]
  | true =>
      rw [withRisk_of_known hknown, withRisk_of_known ((knows_withRisk ..).trans hknown), riskOrFresh_withRisk,
        putRisk_withRisk_comm]

theorem withRisk_unversioned (s : Store) (threshold : UInt8) (entity : EntityRef) :
    s.unversioned.withRisk threshold entity = (s.withRisk threshold entity).unversioned := by
  have hknows : s.unversioned.knows entity = s.knows entity := knows_congr rfl entity
  unfold withRisk
  rw [hknows, riskOrFresh_unversioned]
  split
  · exact (unversioned_putRisk s _).symm
  · rfl

/-- A part with a single supplier; neither was assessed before. -/
def oneSource : Store :=
  ((empty.addSupplier ⟨⟨1⟩, "S0001", "Acme Castings", true, none⟩).addPart
    ⟨⟨10⟩, "P0010", "Gearbox housing", none, none⟩).link ⟨⟨1⟩, ⟨10⟩⟩

end Store

end SupplyRisk
