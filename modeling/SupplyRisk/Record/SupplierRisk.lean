import SupplyRisk.Inventory.Json
import SupplyRisk.Scoring.Assessment

/-!
# Risk records of suppliers

The stored result of assessing a supplier, with its alert threshold and schedule.  The version counts saves;
a save succeeds only at the version that was read.
-/

namespace SupplyRisk

/-- The alert threshold of suppliers for which none was configured. -/
def standardAlertThreshold : UInt8 := 70

/-- A percentage, refused outside 0 to 100. -/
def checkPercentage (field : String) (value : Int) : Except RiskError UInt8 :=
  if 0 ≤ value ∧ value ≤ 100 then .ok (UInt8.ofNat value.toNat)
  else .error (.outOfRange field value 0 100)

structure SupplierRisk where
  supplier : SupplierId
  financial : Score
  delivery : Score
  quality : Score
  geographical : Score
  overall : Float
  level : Level
  alertThreshold : UInt8
  lastAssessment : Option Date
  nextAssessment : Option Date
  notes : String
  version : UInt64
deriving BEq

instance : Ranked SupplierRisk := ⟨fun r => r.supplier.value.toNat⟩

namespace SupplierRisk

/-- The record of a supplier that was never assessed. -/
def new (supplier : SupplierId) (alertThreshold : UInt8) : SupplierRisk where
  supplier := supplier
  financial := .zero
  delivery := .zero
  quality := .zero
  geographical := .zero
  overall := 0
  level := .low
  alertThreshold := alertThreshold
  lastAssessment := none
  nextAssessment := none
  notes := ""
  version := 0

def entity (r : SupplierRisk) : EntityRef := .supplier r.supplier

def factors (r : SupplierRisk) : SupplierFactors := ⟨r.financial, r.delivery, r.quality, r.geographical⟩

/-- Whether the overall score reaches the supplier's threshold. -/
def isAlertTriggered (r : SupplierRisk) : Bool := decide (Float.ofNat r.alertThreshold.toNat ≤ r.overall)

def setAlertThreshold (r : SupplierRisk) (threshold : Int) : Except RiskError SupplierRisk :=
  (checkPercentage "alert_threshold" threshold).map (fun value => { r with alertThreshold := value })

/-- The day of the next assessment: kept if it is not yet past, else moved on by the interval. -/
def scheduled? (next : Option Date) (today : Date) (intervalDays : UInt32) : Option Date :=
  match next with
  | some day => if day < today then today.addDays? intervalDays.toNat else some day
  | none => today.addDays? intervalDays.toNat

/-- The record after an assessment; nothing if the next assessment would leave the calendar. -/
def assess? (r : SupplierRisk) (a : SupplierAssessment) (today : Date) (intervalDays : UInt32) :
    Option SupplierRisk :=
  (scheduled? r.nextAssessment today intervalDays).map (fun next =>
    { r with
      financial := a.factors.financial
      delivery := a.factors.delivery
      quality := a.factors.quality
      geographical := a.factors.geographical
      overall := a.overall
      level := a.level
      lastAssessment := some today
      nextAssessment := some next })

/-- What every save checks. -/
def check (r : SupplierRisk) : Except RiskError Unit := do
  let _ ← checkPercentage "alert_threshold" r.alertThreshold.toNat
  if 0 ≤ r.overall && r.overall ≤ 100 then .ok ()
  else .error (.validation "overall_risk_score"
    (Decimal.Layout.sentence.text r.overall ++ " is outside the allowed range [0, 100]"))

def read? (j : Json) : Option SupplierRisk := do
  let f ← Document.record? ["supplier", "financial_risk_score", "delivery_risk_score",
    "quality_risk_score", "geographical_risk_score", "overall_risk_score", "risk_level",
    "alert_threshold", "last_assessment_date", "next_assessment_date", "notes", "version"] j
  some {
    supplier := ← f.required "supplier" SupplierId.read?
    financial := ← f.required "financial_risk_score" Score.read?
    delivery := ← f.required "delivery_risk_score" Score.read?
    quality := ← f.required "quality_risk_score" Score.read?
    geographical := ← f.required "geographical_risk_score" Score.read?
    overall := ← f.required "overall_risk_score" Document.real?
    level := ← f.required "risk_level" Level.read?
    alertThreshold := ← f.required "alert_threshold" Document.uint8?
    lastAssessment := ← f.optional "last_assessment_date" Date.ofJson?
    nextAssessment := ← f.optional "next_assessment_date" Date.ofJson?
    notes := ← f.withDefault "notes" Document.text? ""
    version := ← f.withDefault "version" Document.uint64? 0 }

def toJson (real : Float → Json) (r : SupplierRisk) : Json :=
  .object [("supplier", idJson r.supplier.value), ("financial_risk_score", r.financial.toJson),
    ("delivery_risk_score", r.delivery.toJson), ("quality_risk_score", r.quality.toJson),
    ("geographical_risk_score", r.geographical.toJson), ("overall_risk_score", real r.overall),
    ("risk_level", r.level.toJson), ("alert_threshold", .nat r.alertThreshold.toNat),
    ("last_assessment_date", .ofOption Date.toJson r.lastAssessment),
    ("next_assessment_date", .ofOption Date.toJson r.nextAssessment),
    ("notes", .string r.notes), ("version", .nat r.version.toNat)]

end SupplierRisk

end SupplyRisk
