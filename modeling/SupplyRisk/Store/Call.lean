import SupplyRisk.Store.Basic

/-!
# Calls of the store

Each operation through which the engine uses a store is a `StoreCall`; `Answer` is the type of what it returns.
`Store.perform` carries a call out, and `Store.hasNumberFor` says whether there is a number or version for what it
writes.  With calls as values, a store that fails on purpose and the orders in which several writers' calls can mix
are ordinary functions and lists.
-/

namespace SupplyRisk

inductive StoreCall where
  | suppliers
  | parts
  | supplierHistory (id : SupplierId)
  | partHistory (id : PartId)
  | categoryOfferings (category : UInt64)
  | setPartStockThreshold (id : PartId) (threshold : Option UInt32)
  | supplierRisk (id : SupplierId) (defaultThreshold : UInt8)
  | saveSupplierRisk (record : SupplierRisk)
  | supplierRisks
  | partRisk (id : PartId)
  | savePartRisk (record : PartRisk)
  | partRisks
  | openAlert (entity : EntityRef)
  | insertAlert (draft : AlertDraft)
  | updateAlert (alert : Alert)
  | alert (id : AlertId)
  | alerts
  | recommendationsForPart (part : PartId)
  | insertRecommendation (draft : RecommendationDraft)
  | updateRecommendation (record : Recommendation)
  | recommendation (id : RecommendationId)
  | recommendations
  | insertEvent (draft : EventDraft)
  | resolveEvent (id : EventId) (notes : String) (on : Date)
  | events

namespace StoreCall

/-- What a call returns when it succeeds. -/
abbrev Answer : StoreCall → Type
  | suppliers => List Supplier
  | parts => List Part
  | supplierHistory _ => SupplierHistory
  | partHistory _ => PartHistory
  | categoryOfferings _ => List SupplierPart
  | setPartStockThreshold _ _ => Unit
  | supplierRisk _ _ => SupplierRisk
  | saveSupplierRisk _ => SupplierRisk
  | supplierRisks => List SupplierRisk
  | partRisk _ => PartRisk
  | savePartRisk _ => PartRisk
  | partRisks => List PartRisk
  | openAlert _ => Option Alert
  | insertAlert _ => Alert
  | updateAlert _ => Unit
  | alert _ => Alert
  | alerts => List Alert
  | recommendationsForPart _ => List Recommendation
  | insertRecommendation _ => Recommendation
  | updateRecommendation _ => Unit
  | recommendation _ => Recommendation
  | recommendations => List Recommendation
  | insertEvent _ => RiskEvent
  | resolveEvent _ _ _ => RiskEvent
  | events => List RiskEvent

end StoreCall

/-- Carries out a call; a refused one leaves the store as it was. -/
def Store.perform (s : Store) : (c : StoreCall) → Except RiskError (c.Answer × Store)
  | .suppliers => .ok (s.suppliers.rows, s)
  | .parts => .ok (s.parts.rows, s)
  | .supplierHistory id => (s.supplierHistory id).map (·, s)
  | .partHistory id => (s.partHistory id).map (·, s)
  | .categoryOfferings category => .ok (s.categoryOfferings category, s)
  | .setPartStockThreshold id threshold => (s.setPartStockThreshold id threshold).map ((), ·)
  | .supplierRisk id defaultThreshold => s.supplierRisk id defaultThreshold
  | .saveSupplierRisk record => s.saveSupplierRisk record
  | .supplierRisks => .ok (s.supplierRisks.rows, s)
  | .partRisk id => s.partRisk id
  | .savePartRisk record => s.savePartRisk record
  | .partRisks => .ok (s.partRisks.rows, s)
  | .openAlert entity => .ok (s.openAlert entity, s)
  | .insertAlert draft => s.insertAlert draft
  | .updateAlert alert => (s.updateAlert alert).map ((), ·)
  | .alert id => (s.alert id).map (·, s)
  | .alerts => .ok (s.alerts.rows, s)
  | .recommendationsForPart part => .ok (s.recommendationsForPart part, s)
  | .insertRecommendation draft => s.insertRecommendation draft
  | .updateRecommendation record => (s.updateRecommendation record).map ((), ·)
  | .recommendation id => (s.recommendation id).map (·, s)
  | .recommendations => .ok (s.recommendations.rows, s)
  | .insertEvent draft => .ok (s.insertEvent draft)
  | .resolveEvent id notes on => s.resolveEvent id notes on
  | .events => .ok (s.events.rows, s)

/-- Whether the number or version that a call writes anew is a word. -/
def Store.hasNumberFor (s : Store) : StoreCall → Bool
  | .saveSupplierRisk record => Word.hasNext record.version
  | .savePartRisk record => Word.hasNext record.version
  | .insertAlert _ => hasNext s.alerts
  | .insertRecommendation _ => hasNext s.recommendations
  | .insertEvent _ => hasNext s.events
  | _ => true

end SupplyRisk
