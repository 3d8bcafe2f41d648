import SupplyRisk.Record.Alert
import SupplyRisk.Record.Event
import SupplyRisk.Record.PartRisk
import SupplyRisk.Record.Recommendation

/-!
# The store

Everything the engine knows: the inventory, which it only reads (a part's low-stock threshold apart), and the
records it keeps.  Whatever a caller does, the store has one risk record per supplier and part, at most one
open alert per entity and at most one recommendation per part and suggested supplier.  Risk records are
saved at the version that was read; every save raises the version by one.  A refused write changes nothing.
Numbers and versions are words: behind the last one there is no next, and who plays calls sees to it that none is
asked for (`Store.hasNumberFor`).
-/

namespace SupplyRisk

structure Store where
  suppliers : Roster Supplier
  parts : Roster Part
  links : List SupplierPart
  orderLines : List OrderLine
  stockItems : List StockItem
  supplierRisks : Roster SupplierRisk
  partRisks : Roster PartRisk
  alerts : Roster Alert
  recommendations : Roster Recommendation
  events : Roster RiskEvent

namespace Store

def empty : Store := ⟨.empty, .empty, [], [], [], .empty, .empty, .empty, .empty, .empty⟩

instance : Inhabited Store := ⟨empty⟩

/-! ## Inventory -/

def addSupplier (s : Store) (supplier : Supplier) : Store :=
  { s with suppliers := s.suppliers.insert supplier }

def addPart (s : Store) (part : Part) : Store := { s with parts := s.parts.insert part }

/-- Links a supplier to a part, once. -/
def link (s : Store) (l : SupplierPart) : Store :=
  if l ∈ s.links then s else { s with links := s.links ++ [l] }

def addOrderLine (s : Store) (line : OrderLine) : Store :=
  { s with orderLines := s.orderLines ++ [line] }

def addStockItem (s : Store) (item : StockItem) : Store :=
  { s with stockItems := s.stockItems ++ [item] }

def isActive (s : Store) (id : SupplierId) : Bool :=
  (s.suppliers.find? id.value.toNat).any (·.active)

def supplierHistory (s : Store) (id : SupplierId) : Except RiskError SupplierHistory :=
  match s.suppliers.find? id.value.toNat with
  | none => .error (.notFound (.supplier id))
  | some supplier => .ok {
      supplier
      orderLines := s.orderLines.filter (fun line => line.supplier = id)
      partsSupplied := (s.links.filter (fun l => l.supplier = id)).map (·.part) }

def partHistory (s : Store) (id : PartId) : Except RiskError PartHistory :=
  match s.parts.find? id.value.toNat with
  | none => .error (.notFound (.part id))
  | some part =>
      let linked := (s.links.filter (fun l => l.part = id)).map (·.supplier)
      .ok {
        part
        stockItems := s.stockItems.filter (fun item => item.part = id)
        orderLines := s.orderLines.filter (fun line => line.part = id)
        suppliers := linked.filter s.isActive
        linkedSuppliers := linked }

/-- Whether a part is in a category. -/
def isInCategory (s : Store) (category : UInt64) (id : PartId) : Bool :=
  ((s.parts.find? id.value.toNat).bind (·.category)).any (fun c => c.id = category)

/-- Offerings, by active suppliers, of the parts in a category. -/
def categoryOfferings (s : Store) (category : UInt64) : List SupplierPart :=
  s.links.filter (fun l => s.isActive l.supplier && s.isInCategory category l.part)

def setPartStockThreshold (s : Store) (id : PartId) (threshold : Option UInt32) :
    Except RiskError Store :=
  match s.parts.find? id.value.toNat with
  | none => .error (.notFound (.part id))
  | some part => .ok (s.addPart { part with lowStockThreshold := threshold })

/-! ## Risk records -/

/-- A stored record must be at the writer's version, a missing one may only be written as a new one. -/
def checkVersion (entity : EntityRef) (expected : UInt64) (stored : Option UInt64) :
    Except RiskError Unit :=
  let found := stored.getD 0
  if found = expected then .ok () else .error (.conflict entity expected found)

/-- The supplier's record, created with the given threshold if there is none. -/
def supplierRisk (s : Store) (id : SupplierId) (defaultThreshold : UInt8) :
    Except RiskError (SupplierRisk × Store) :=
  match s.supplierRisks.find? id.value.toNat with
  | some record => .ok (record, s)
  | none =>
      if s.suppliers.contains id.value.toNat then
        let record := SupplierRisk.new id defaultThreshold
        .ok (record, { s with supplierRisks := s.supplierRisks.insert record })
      else .error (.notFound (.supplier id))

def saveSupplierRisk (s : Store) (record : SupplierRisk) :
    Except RiskError (SupplierRisk × Store) := do
  record.check
  let stored := (s.supplierRisks.find? record.supplier.value.toNat).map (·.version)
  checkVersion record.entity record.version stored
  let saved := { record with version := record.version + 1 }
  .ok (saved, { s with supplierRisks := s.supplierRisks.insert saved })

/-- The part's record, created if there is none. -/
def partRisk (s : Store) (id : PartId) : Except RiskError (PartRisk × Store) :=
  match s.partRisks.find? id.value.toNat with
  | some record => .ok (record, s)
  | none =>
      if s.parts.contains id.value.toNat then
        let record := PartRisk.new id
        .ok (record, { s with partRisks := s.partRisks.insert record })
      else .error (.notFound (.part id))

def savePartRisk (s : Store) (record : PartRisk) : Except RiskError (PartRisk × Store) := do
  record.check
  let stored := (s.partRisks.find? record.part.value.toNat).map (·.version)
  checkVersion record.entity record.version stored
  let saved := { record with version := record.version + 1 }
  .ok (saved, { s with partRisks := s.partRisks.insert saved })

/-- Raises a stored version, as the save of another writer would. -/
def bumpSupplierRisk (s : Store) (id : SupplierId) : Store :=
  match s.supplierRisks.find? id.value.toNat with
  | some record =>
      { s with supplierRisks := s.supplierRisks.insert { record with version := record.version + 1 } }
  | none => s

/-- Raises a stored version, as the save of another writer would. -/
def bumpPartRisk (s : Store) (id : PartId) : Store :=
  match s.partRisks.find? id.value.toNat with
  | some record =>
      { s with partRisks := s.partRisks.insert { record with version := record.version + 1 } }
  | none => s

/-! ## Alerts -/

/-- The number for a new row: one more than the greatest, and one in an empty roster. -/
def nextNumber {α : Type} [Ranked α] (r : Roster α) : UInt64 :=
  match r.lastRank? with
  | some n => UInt64.ofNat (n + 1)
  | none => 1

/-- Whether there is a number for a new row. -/
def hasNext {α : Type} [Ranked α] (r : Roster α) : Bool := r.lastRank?.all (fun n => n + 1 < Word.count64)

/-- The open alert of an entity. -/
def openAlert (s : Store) (entity : EntityRef) : Option Alert :=
  s.alerts.rows.find? (fun a => a.entity = entity && a.isOpen)

/-- The refusal of a second open alert. -/
def alreadyOpen (entity : EntityRef) (other : Alert) : RiskError :=
  .uniqueViolation (entity.text ++ " already has open " ++ other.id.text)

def insertAlert (s : Store) (draft : AlertDraft) : Except RiskError (Alert × Store) :=
  match s.openAlert draft.entity with
  | some other => .error (alreadyOpen draft.entity other)
  | none =>
      let alert := Alert.ofDraft ⟨nextNumber s.alerts⟩ draft
      .ok (alert, { s with alerts := s.alerts.insert alert })

/-- The other open alert that stands in the way of writing this one. -/
def openRival? (s : Store) (alert : Alert) : Option Alert :=
  if alert.isOpen then (s.openAlert alert.entity).filter (fun other => other.id ≠ alert.id) else none

def updateAlert (s : Store) (alert : Alert) : Except RiskError Store :=
  if s.alerts.contains alert.id.value.toNat then
    match s.openRival? alert with
    | some other => .error (alreadyOpen alert.entity other)
    | none => .ok { s with alerts := s.alerts.insert alert }
  else .error (.recordNotFound alert.id.text)

def alert (s : Store) (id : AlertId) : Except RiskError Alert :=
  match s.alerts.find? id.value.toNat with
  | some alert => .ok alert
  | none => .error (.recordNotFound id.text)

/-! ## Recommendations -/

def recommendationsForPart (s : Store) (part : PartId) : List Recommendation :=
  s.recommendations.rows.filter (fun r => r.part = part)

/-- Whether a supplier is already suggested for a part. -/
def isSuggested (s : Store) (part : PartId) (supplier : SupplierId) : Bool :=
  s.recommendations.rows.any (fun r => r.part = part && r.suggestedSupplier = supplier)

def insertRecommendation (s : Store) (draft : RecommendationDraft) :
    Except RiskError (Recommendation × Store) := do
  draft.check
  if s.isSuggested draft.part draft.suggestedSupplier then
    .error (.uniqueViolation
      (draft.suggestedSupplier.text ++ " already suggested for " ++ draft.part.text))
  else
    let record := Recommendation.ofDraft ⟨nextNumber s.recommendations⟩ draft
    .ok (record, { s with recommendations := s.recommendations.insert record })

def updateRecommendation (s : Store) (record : Recommendation) : Except RiskError Store :=
  if s.recommendations.contains record.id.value.toNat then
    .ok { s with recommendations := s.recommendations.insert record }
  else .error (.recordNotFound record.id.text)

def recommendation (s : Store) (id : RecommendationId) : Except RiskError Recommendation :=
  match s.recommendations.find? id.value.toNat with
  | some record => .ok record
  | none => .error (.recordNotFound id.text)

/-! ## Events -/

def insertEvent (s : Store) (draft : EventDraft) : RiskEvent × Store :=
  let event := RiskEvent.ofDraft ⟨nextNumber s.events⟩ draft
  (event, { s with events := s.events.insert event })

def resolveEvent (s : Store) (id : EventId) (notes : String) (on : Date) :
    Except RiskError (RiskEvent × Store) :=
  match s.events.find? id.value.toNat with
  | some event =>
      let resolved := event.resolve notes on
      .ok (resolved, { s with events := s.events.insert resolved })
  | none => .error (.recordNotFound id.text)

end Store

end SupplyRisk
