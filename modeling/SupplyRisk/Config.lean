import SupplyRisk.Config.Retry
import SupplyRisk.Config.Weights
import SupplyRisk.Text.Blank

/-!
# Configuration

The settings of the engine with their defaults, and what can be wrong with them.  A configuration is used as
a whole or not at all: `Config.problems` lists every problem.
-/

namespace SupplyRisk

/-- Tiers of open-order value for the financial factor. -/
structure FinancialThresholds where
  elevatedExposure : Float := 50000
  highExposure : Float := 100000

/-- Tiers of the number of parts supplied for the quality factor. -/
structure QualityThresholds where
  moderatePartCount : UInt64 := 50
  largePartCount : UInt64 := 100
deriving DecidableEq

inductive CountryTier where
  | high
  | medium
  | other
deriving DecidableEq

def CountryTier.text : CountryTier → String
  | high => "high"
  | medium => "medium"
  | other => "other"

/-- Countries of high and of medium risk. -/
structure CountryTable where
  high : List String := ["AF", "BY", "IR", "KP", "MM", "RU", "SD", "SY", "VE", "YE"]
  medium : List String := ["BD", "BR", "CN", "EG", "ID", "IN", "MX", "NG", "PK", "TR", "VN"]
deriving DecidableEq

/-- The tier of a country, whose name is trimmed and compared without regard to the case of ASCII letters. -/
def CountryTable.tier (t : CountryTable) (country : String) : CountryTier :=
  let name := String.ofList (Text.trim country.toList)
  if t.high.any (Text.equalIgnoringCase name) then .high
  else if t.medium.any (Text.equalIgnoringCase name) then .medium
  else .other

/-- Days on hand below which a part is at critical, high or medium risk of running out. -/
structure StockoutThresholds where
  criticalDays : Float := 7
  highDays : Float := 30
  mediumDays : Float := 90

structure ScoringConfig where
  historyWindowDays : UInt32 := 365
  weights : Weights := {}
  financial : FinancialThresholds := {}
  quality : QualityThresholds := {}
  countries : CountryTable := {}
  stockout : StockoutThresholds := {}

structure AlertConfig where
  /-- Alerts with activity in so many hours are sent out. -/
  lookbackHours : UInt32 := 24
  defaultAlertThreshold : UInt8 := 70
  nextAssessmentIntervalDays : UInt32 := 90
deriving DecidableEq

structure RecommendationConfig where
  maxPerPart : UInt64 := 3
  baseSimilarity : UInt8 := 50
  perSharedPart : UInt8 := 10
deriving DecidableEq

structure ParallelConfig where
  enabled : Bool := true
  maxConcurrency : Option UInt64 := none
deriving DecidableEq

namespace ParallelConfig

/-- One entity after the other. -/
def sequential : ParallelConfig := { enabled := false }

def withWorkers (workers : UInt64) : ParallelConfig := { maxConcurrency := some workers }

/-- The number of workers; without a number above zero, one for each core of the machine. -/
def workers (c : ParallelConfig) (cores : Nat) : Nat :=
  match c.maxConcurrency with
  | some n => if n = 0 then cores else n.toNat
  | none => cores

end ParallelConfig

structure RunConfig where
  /-- The time a whole run may take; without it there is no limit. -/
  timeoutSeconds : Option UInt64 := none
deriving DecidableEq

structure Config where
  scoring : ScoringConfig := {}
  alerts : AlertConfig := {}
  recommendations : RecommendationConfig := {}
  parallel : ParallelConfig := {}
  retry : RetryPolicy := {}
  run : RunConfig := {}

namespace ScoringConfig

def problems (c : ScoringConfig) : List String :=
  (if c.historyWindowDays = 0 then ["scoring.history_window_days must be at least 1"] else [])
    ++ (c.weights.problem?.toList.map ("scoring.weights: " ++ ·))
    ++ (if c.financial.highExposure < c.financial.elevatedExposure then
        ["scoring.financial.elevated_exposure must not exceed high_exposure"] else [])
    ++ (if c.quality.largePartCount < c.quality.moderatePartCount then
        ["scoring.quality.moderate_part_count must not exceed large_part_count"] else [])
    ++ (if c.stockout.criticalDays ≤ c.stockout.highDays
          && c.stockout.highDays ≤ c.stockout.mediumDays then []
        else
        ["scoring.stockout thresholds must satisfy critical_days <= high_days <= medium_days"])

end ScoringConfig

/-- The complaint about a percentage above one hundred. -/
def percentageProblem (name : String) (value : UInt8) : List String :=
  if 100 < value then
    [name ++ " must be between 0 and 100, got " ++ natString value.toNat]
  else []

namespace AlertConfig

def problems (c : AlertConfig) : List String :=
  percentageProblem "alerts.default_alert_threshold" c.defaultAlertThreshold
    ++ (if c.lookbackHours = 0 then ["alerts.lookback_hours must be at least 1"] else [])

end AlertConfig

namespace RecommendationConfig

def problems (c : RecommendationConfig) : List String :=
  percentageProblem "recommendations.base_similarity" c.baseSimilarity

end RecommendationConfig

namespace Config

def problems (c : Config) : List String :=
  c.scoring.problems ++ c.alerts.problems ++ c.recommendations.problems

/-- Refuses a configuration with problems, naming all of them. -/
def check (c : Config) : Except RiskError Unit :=
  if c.problems = [] then .ok () else .error (.config (String.intercalate "; " c.problems))

end Config

end SupplyRisk
