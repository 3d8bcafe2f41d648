import SupplyRisk.Config
import SupplyRisk.Inventory
import SupplyRisk.Score

/-!
# Factor scores of suppliers and parts

Every factor is a function of history and day.  Only order lines from the start of the trailing window on
count for deliveries and for turnover.
-/

namespace SupplyRisk

/-- The first day of the trailing window that ends on `today`. -/
def windowStart? (today : Date) (days : UInt32) : Option Date := today.subDays? days.toNat

namespace Factor

/-- Value still owed on lines that are not fully received. -/
def exposure (lines : List OrderLine) : Float := sumFloats (lines.map OrderLine.openValue)

def financial (t : FinancialThresholds) (lines : List OrderLine) : Score :=
  let value := exposure lines
  if t.highExposure < value then ⟨70, by decide⟩
  else if t.elevatedExposure < value then ⟨60, by decide⟩
  else Score.neutral

/-- Completed lines in the window. -/
def completedLines (start : Date) (lines : List OrderLine) : List OrderLine :=
  lines.filter (fun line => line.orderedOnOrAfter start && line.isCompleted)

/-- The share of late deliveries among the completed ones in the window; neutral without any. -/
def delivery (start : Date) (lines : List OrderLine) : Score :=
  let completed := completedLines start lines
  let late := completed.countP OrderLine.isLate
  if completed.isEmpty then Score.neutral
  else Score.saturating (Float.ofNat late / Float.ofNat completed.length * 100)

/-- Breadth of the catalogue. -/
def quality (t : QualityThresholds) (partCount : Nat) : Score :=
  if t.largePartCount.toNat < partCount then ⟨70, by decide⟩
  else if t.moderatePartCount.toNat < partCount then ⟨60, by decide⟩
  else Score.neutral

def geographical (t : CountryTable) : Option Address → Score
  | none => Score.zero
  | some address =>
      match t.tier address.country with
      | .high => ⟨80, by decide⟩
      | .medium => ⟨40, by decide⟩
      | .other => ⟨10, by decide⟩

/-- The quantity ordered in the window. -/
def purchased (start : Date) (lines : List OrderLine) : Float :=
  sumFloats ((lines.filter (·.orderedOnOrAfter start)).map (·.quantity))

/-- Quantity ordered in the window over the average quantity of an item in stock; zero without stock. -/
def turnover (start : Date) (h : PartHistory) : Float :=
  let quantities := h.stockQuantities
  if quantities.isEmpty then 0
  else
    let average := sumFloats quantities / Float.ofNat quantities.length
    if average ≤ 0 then 0 else purchased start h.orderLines / average

/-- Days on hand of a part without measurable turnover. -/
def slowMovingDays : Float := 999

def daysOnHand (turnover : Float) : Float :=
  if 0 < turnover then 365 / turnover else slowMovingDays

def stockout (t : StockoutThresholds) (start : Date) (h : PartHistory) : Score :=
  if h.onHand ≤ 0 then Score.greatest
  else
    let days := daysOnHand (turnover start h)
    if days < t.criticalDays then ⟨90, by decide⟩
    else if days < t.highDays then ⟨70, by decide⟩
    else if days < t.mediumDays then ⟨40, by decide⟩
    else ⟨10, by decide⟩

end Factor

/-- The four factors of a supplier. -/
structure SupplierFactors where
  financial : Score
  delivery : Score
  quality : Score
  geographical : Score
deriving DecidableEq

namespace SupplierFactors

/-- The factors of a history, given the start of the window. -/
def ofHistory (c : ScoringConfig) (start : Date) (h : SupplierHistory) : SupplierFactors where
  financial := Factor.financial c.financial h.orderLines
  delivery := Factor.delivery start h.orderLines
  quality := Factor.quality c.quality h.partsSupplied.length
  geographical := Factor.geographical c.countries h.supplier.address

def toJson (f : SupplierFactors) : Json :=
  .object [("financial", f.financial.toJson), ("delivery", f.delivery.toJson),
    ("quality", f.quality.toJson), ("geographical", f.geographical.toJson)]

end SupplierFactors

end SupplyRisk
