import SupplyRisk.Record.SupplierRisk

/-!
# Risk records of parts

The stored result of assessing a part.  Planners set the flags for long lead time and high value; the
assessment keeps them and sets the others.
-/

namespace SupplyRisk

structure PartRisk where
  part : PartId
  singleSource : Bool
  longLeadTime : Bool
  highValue : Bool
  stockout : Score
  combined : UInt8
  level : Level
  lastAssessment : Option Date
  notes : String
  version : UInt64
deriving DecidableEq

instance : Ranked PartRisk := ⟨fun r => r.part.value.toNat⟩

namespace PartRisk

/-- The record of a part that was never assessed. -/
def new (part : PartId) : PartRisk where
  part := part
  singleSource := false
  longLeadTime := false
  highValue := false
  stockout := .zero
  combined := 0
  level := .low
  lastAssessment := none
  notes := ""
  version := 0

def entity (r : PartRisk) : EntityRef := .part r.part

/-- The flags for the next assessment. -/
def flags (r : PartRisk) (singleSource : Bool) : PartFlags := ⟨singleSource, r.longLeadTime, r.highValue⟩

def assess (r : PartRisk) (a : PartAssessment) (today : Date) : PartRisk :=
  { r with
    singleSource := a.flags.singleSource
    longLeadTime := a.flags.longLeadTime
    highValue := a.flags.highValue
    stockout := a.stockout
    combined := a.combined
    level := a.level
    lastAssessment := some today }

/-- What every save checks. -/
def check (r : PartRisk) : Except RiskError Unit := do
  let _ ← checkPercentage "combined_risk" r.combined.toNat

/-- Alternatives are suggested for parts at high risk with a single source. -/
def isEligible (r : PartRisk) : Bool := r.level.isHigh && r.singleSource

def read? (j : Json) : Option PartRisk := do
  let f ← Document.record? ["part", "single_source_risk", "long_lead_time_risk", "high_value_risk",
    "stockout_risk_score", "combined_risk", "risk_level", "last_assessment_date", "notes",
    "version"] j
  some {
    part := ← f.required "part" PartId.read?
    singleSource := ← f.required "single_source_risk" Document.flag?
    longLeadTime := ← f.withDefault "long_lead_time_risk" Document.flag? false
    highValue := ← f.withDefault "high_value_risk" Document.flag? false
    stockout := ← f.required "stockout_risk_score" Score.read?
    combined := ← f.required "combined_risk" Document.uint8?
    level := ← f.required "risk_level" Level.read?
    lastAssessment := ← f.optional "last_assessment_date" Date.ofJson?
    notes := ← f.withDefault "notes" Document.text? ""
    version := ← f.withDefault "version" Document.uint64? 0 }

def toJson (r : PartRisk) : Json :=
  .object [("part", idJson r.part.value), ("single_source_risk", .bool r.singleSource),
    ("long_lead_time_risk", .bool r.longLeadTime), ("high_value_risk", .bool r.highValue),
    ("stockout_risk_score", r.stockout.toJson), ("combined_risk", .nat r.combined.toNat),
    ("risk_level", r.level.toJson),
    ("last_assessment_date", .ofOption Date.toJson r.lastAssessment),
    ("notes", .string r.notes), ("version", .nat r.version.toNat)]

end PartRisk

end SupplyRisk
