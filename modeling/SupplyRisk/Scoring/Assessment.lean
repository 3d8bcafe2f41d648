import SupplyRisk.Level
import SupplyRisk.Scoring.Factors

/-!
# Assessments

An overall score and a level follow from factors alone.  Both kinds of assessment are built from their
inputs, so a stored overall score matches the factors it was computed from.
-/

namespace SupplyRisk

/-- Rounds to two decimal places by way of a whole number of hundredths. -/
def roundToCents (x : Float) : Float := (x * 100).round / 100

/-- The weighted sum of the factors, rounded to two places. -/
def Weights.overall (w : Weights) (f : SupplierFactors) : Float :=
  roundToCents (w.financial * f.financial.toFloat + w.delivery * f.delivery.toFloat
    + w.quality * f.quality.toFloat + w.geographical * f.geographical.toFloat)

/-- Suppliers are never critical. -/
def Level.ofOverall (overall : Float) : Level :=
  if 70 ≤ overall then .high else if 30 ≤ overall then .medium else .low

/-- The weights that assessments use: normalized, and refused if something is wrong with them. -/
def Weights.forAssessment (w : Weights) : Except RiskError Weights :=
  match w.normalize.problem? with
  | none => .ok w.normalize
  | some message => .error (.validation "scoring.weights" message)

structure SupplierAssessment where
  factors : SupplierFactors
  overall : Float
  level : Level

def SupplierAssessment.ofFactors (w : Weights) (f : SupplierFactors) : SupplierAssessment :=
  ⟨f, w.overall f, Level.ofOverall (w.overall f)⟩

/-- What is known to raise the risk of a part. -/
structure PartFlags where
  singleSource : Bool := false
  longLeadTime : Bool := false
  highValue : Bool := false
deriving DecidableEq

/-- The sum of the weights of the flags that are set. -/
def PartFlags.weight (f : PartFlags) : Nat :=
  (if f.singleSource then 30 else 0) + (if f.longLeadTime then 25 else 0)
    + (if f.highValue then 20 else 0)

def PartFlags.read? (j : Json) : Option PartFlags := do
  let f ← Document.record? ["single_source", "long_lead_time", "high_value"] j
  some {
    singleSource := ← f.required "single_source" Document.flag?
    longLeadTime := ← f.required "long_lead_time" Document.flag?
    highValue := ← f.required "high_value" Document.flag? }

def PartFlags.toJson (f : PartFlags) : Json :=
  .object [("single_source", .bool f.singleSource), ("long_lead_time", .bool f.longLeadTime),
    ("high_value", .bool f.highValue)]

/-- Half of flag weight and stockout score together, rounded down. -/
def PartFlags.combined (f : PartFlags) (stockout : Score) : UInt8 :=
  UInt8.ofNat (min ((f.weight + stockout.value) / 2) 100)

def Level.ofCombined (combined : UInt8) : Level :=
  if 80 ≤ combined then .critical
  else if 60 ≤ combined then .high
  else if 40 ≤ combined then .medium
  else .low

structure PartAssessment where
  flags : PartFlags
  stockout : Score
  combined : UInt8
  level : Level
deriving DecidableEq

def PartAssessment.ofFlags (f : PartFlags) (stockout : Score) : PartAssessment :=
  ⟨f, stockout, f.combined stockout, Level.ofCombined (f.combined stockout)⟩

end SupplyRisk
