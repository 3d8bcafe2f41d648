import SupplyRisk.Alert.Lifecycle
import SupplyRisk.Decimal.Fixed
import SupplyRisk.Suggestion

/-!
# Assessing one entity

The scripts that read an entity's history, save its risk record, bring its alert in line and log the risk
event that an alert owes.  They are repeatable: an event owed by an alert stays marked on it until it is
logged.
-/

namespace SupplyRisk

/-- Settings and clock of the engine. -/
structure Engine where
  config : Config
  /-- The weights in use, which are normalized. -/
  weights : Weights
  now : Instant

/-- What one entity contributed to a run. -/
structure Outcome where
  highRisk : Bool := false
  eventCreated : Bool := false
  belowStockThreshold : Bool := false
  recommendations : Nat := 0
deriving DecidableEq

def Outcome.toJson (o : Outcome) : Json :=
  .object [("high_risk", .bool o.highRisk), ("event_created", .bool o.eventCreated),
    ("below_stock_threshold", .bool o.belowStockThreshold),
    ("recommendations", .nat o.recommendations)]

/-- Logs the event that an open alert owes and clears the mark on the alert.  An event that is not called for
is not logged.  Answers whether an event was logged. -/
def logPendingEvent (alert : Option Alert) (triggered : Bool) (draft : EventDraft) : Script Bool :=
  match alert with
  | none => return false
  | some alert =>
      if alert.isOpen && alert.eventPending then do
        if triggered then
          let event ← Script.ask (.insertEvent draft)
          Script.ask (.updateAlert (alert.recordEvent (some event.id)))
          return true
        else
          Script.ask (.updateAlert (alert.recordEvent none))
          return false
      else return false

/-- Supplier alerts are about deliveries if the delivery score is above seventy. -/
def SupplierFactors.category (f : SupplierFactors) : Category :=
  if 70 < f.delivery.value then .delivery else .financial

namespace Engine

/-- An engine for a configuration; a configuration with problems is refused. -/
def ofConfig (config : Config) (now : Instant) : Except RiskError Engine := do
  config.check
  let weights ← config.scoring.weights.forAssessment
  .ok ⟨config, weights, now⟩

def today (e : Engine) : Date := e.now.date

/-- The first day of the history window. -/
def windowStart (e : Engine) : Script Date :=
  Script.inCalendar (windowStart? e.today e.config.scoring.historyWindowDays)

def supplierAlert (name : String) (category : Category) (r : SupplierRisk) : AlertContext where
  entity := r.entity
  level := r.level
  category := category
  alertType := "supplier_risk"
  message := "Supplier " ++ name ++ " risk level is " ++ r.level.label ++ " (overall score "
    ++ Decimal.fixedText 2 r.overall ++ ")"

def supplierEvent (name : String) (category : Category) (today : Date) (r : SupplierRisk) :
    EventDraft where
  date := today
  title := "High supplier risk detected: " ++ name
  description := "Supplier " ++ name ++ " has an overall risk score of "
    ++ Decimal.fixedText 2 r.overall
  category := category
  severity := r.level
  affectedSuppliers := Roster.empty.insert r.supplier
  affectedParts := .empty

/-- Saves the supplier's record with fresh factors; returns it with the factors. -/
def saveSupplierAssessment (e : Engine) (h : SupplierHistory) (r : SupplierRisk) :
    Script (SupplierRisk × SupplierFactors) := do
  let factors := SupplierFactors.ofHistory e.config.scoring (← e.windowStart) h
  let assessment := SupplierAssessment.ofFactors e.weights factors
  let assessed ← Script.inCalendar
    (r.assess? assessment e.today e.config.alerts.nextAssessmentIntervalDays)
  return (← Script.ask (.saveSupplierRisk assessed), factors)

def assessSupplier (e : Engine) (id : SupplierId) : Script Outcome := do
  let history ← Script.ask (.supplierHistory id)
  let record ← Script.ask (.supplierRisk id e.config.alerts.defaultAlertThreshold)
  let (record, factors) ← e.saveSupplierAssessment history record
  let name := history.supplier.name
  let outcome ← (supplierAlert name factors.category record).reconcile e.now
  let eventCreated ← logPendingEvent outcome.alert record.isAlertTriggered
    (supplierEvent name factors.category e.today record)
  return { highRisk := record.level.isHigh, eventCreated }

def partAlert (name : String) (r : PartRisk) : AlertContext where
  entity := r.entity
  level := r.level
  category := .supply
  alertType := "supply_chain_risk"
  message := "Part " ++ name ++ " supply chain risk is " ++ r.level.label ++ " (combined score "
    ++ natString r.combined.toNat ++ ")"

def partEvent (h : PartHistory) (today : Date) (r : PartRisk) : EventDraft where
  date := today
  title := "High supply chain risk detected: " ++ h.part.name
  description := "Part " ++ h.part.name ++ " has been assessed as " ++ r.level.text ++ " risk"
  category := .supply
  severity := r.level
  affectedSuppliers := .ofList h.suppliers
  affectedParts := Roster.empty.insert r.part

/-- Saves the part's record with a fresh stockout score. -/
def savePartAssessment (e : Engine) (h : PartHistory) (r : PartRisk) : Script PartRisk := do
  let stockout := Factor.stockout e.config.scoring.stockout (← e.windowStart) h
  let assessment := PartAssessment.ofFlags (r.flags h.isSingleSource) stockout
  Script.ask (.savePartRisk (r.assess assessment e.today))

def assessPart (e : Engine) (id : PartId) : Script Outcome := do
  let history ← Script.ask (.partHistory id)
  let record ← Script.ask (.partRisk id)
  let record ← e.savePartAssessment history record
  let outcome ← (partAlert history.part.name record).reconcile e.now
  let eventCreated ← logPendingEvent outcome.alert true (partEvent history e.today record)
  return {
    highRisk := record.level.isHigh
    eventCreated
    belowStockThreshold := history.isBelowStockThreshold }

/-- Assesses a supplier or a part. -/
def reassess (e : Engine) : EntityRef → Script Outcome
  | .supplier id => e.assessSupplier id
  | .part id => e.assessPart id

/-- Adds suggestions for a part. -/
def suggest (e : Engine) (id : PartId) : Script (List Recommendation) := do
  let history ← Script.ask (.partHistory id)
  let record ← Script.ask (.partRisk id)
  Suggestion.generate e.config.recommendations record history

/-- Adds suggestions for an entity; only parts get any. -/
def recommend (e : Engine) : EntityRef → Script Outcome
  | .supplier _ => return {}
  | .part id => do
      let created ← e.suggest id
      return { recommendations := created.length }

/-! ## Reviewers -/

def resolveAlert (e : Engine) (id : AlertId) (resolver : Option String) : Script Alert :=
  SupplyRisk.resolveAlert id resolver e.now

def reviewRecommendation (e : Engine) (id : RecommendationId) (notes : String) :
    Script Recommendation := do
  let reviewed := (← Script.ask (.recommendation id)).review notes e.today
  Script.ask (.updateRecommendation reviewed)
  return reviewed

def resolveEvent (e : Engine) (id : EventId) (notes : String) : Script RiskEvent :=
  Script.ask (.resolveEvent id notes e.today)

end Engine

/-! ## Planners -/

/-- Sets a supplier's alert threshold, creating its record if there is none. -/
def setAlertThreshold (id : SupplierId) (threshold : Int) : Script SupplierRisk := do
  let record ← Script.ask (.supplierRisk id standardAlertThreshold)
  let changed ← Script.ofExcept (record.setAlertThreshold threshold)
  Script.ask (.saveSupplierRisk changed)

/-- Sets the flags of a part that planners decide on. -/
def setPartFlags (id : PartId) (longLeadTime highValue : Bool) : Script PartRisk := do
  let record ← Script.ask (.partRisk id)
  Script.ask (.savePartRisk { record with longLeadTime, highValue })

end SupplyRisk
