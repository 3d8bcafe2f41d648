import SupplyRisk.Config
import SupplyRisk.Document

/-!
# Reading and writing configurations

Every section and every field may be absent and then has its default.  Unknown fields are skipped.  In the
written form infinite and undefined weights are null.
-/

namespace SupplyRisk

open Document (record? flag? real? text? uint8? uint32? uint64? list?)

section Reading

variable {V : Type} [Document V]

namespace Weights

/-- Weights, with a reader of their numbers. -/
def readWith? (number? : V → Option Float) (v : V) : Option Weights := do
  let f ← record? ["financial", "delivery", "quality", "geographical"] v
  some {
    financial := ← f.withDefault "financial" number? 0.3
    delivery := ← f.withDefault "delivery" number? 0.3
    quality := ← f.withDefault "quality" number? 0.3
    geographical := ← f.withDefault "geographical" number? 0.1 }

def read? (v : V) : Option Weights := readWith? real? v

end Weights

namespace FinancialThresholds

def read? (v : V) : Option FinancialThresholds := do
  let f ← record? ["elevated_exposure", "high_exposure"] v
  some {
    elevatedExposure := ← f.withDefault "elevated_exposure" real? 50000
    highExposure := ← f.withDefault "high_exposure" real? 100000 }

end FinancialThresholds

namespace QualityThresholds

def read? (v : V) : Option QualityThresholds := do
  let f ← record? ["moderate_part_count", "large_part_count"] v
  some {
    moderatePartCount := ← f.withDefault "moderate_part_count" uint64? 50
    largePartCount := ← f.withDefault "large_part_count" uint64? 100 }

end QualityThresholds

namespace CountryTable

def read? (v : V) : Option CountryTable := do
  let f ← record? ["high", "medium"] v
  let standard : CountryTable := {}
  some {
    high := ← f.withDefault "high" (list? text?) standard.high
    medium := ← f.withDefault "medium" (list? text?) standard.medium }

end CountryTable

namespace StockoutThresholds

def read? (v : V) : Option StockoutThresholds := do
  let f ← record? ["critical_days", "high_days", "medium_days"] v
  some {
    criticalDays := ← f.withDefault "critical_days" real? 7
    highDays := ← f.withDefault "high_days" real? 30
    mediumDays := ← f.withDefault "medium_days" real? 90 }

end StockoutThresholds

namespace ScoringConfig

def read? (v : V) : Option ScoringConfig := do
  let f ← record? ["history_window_days", "weights", "financial", "quality", "countries",
    "stockout"] v
  some {
    historyWindowDays := ← f.withDefault "history_window_days" uint32? 365
    weights := ← f.withDefault "weights" Weights.read? {}
    financial := ← f.withDefault "financial" FinancialThresholds.read? {}
    quality := ← f.withDefault "quality" QualityThresholds.read? {}
    countries := ← f.withDefault "countries" CountryTable.read? {}
    stockout := ← f.withDefault "stockout" StockoutThresholds.read? {} }

end ScoringConfig

namespace AlertConfig

def read? (v : V) : Option AlertConfig := do
  let f ← record? ["lookback_hours", "default_alert_threshold", "next_assessment_interval_days"] v
  some {
    lookbackHours := ← f.withDefault "lookback_hours" uint32? 24
    defaultAlertThreshold := ← f.withDefault "default_alert_threshold" uint8? 70
    nextAssessmentIntervalDays := ← f.withDefault "next_assessment_interval_days" uint32? 90 }

end AlertConfig

namespace RecommendationConfig

def read? (v : V) : Option RecommendationConfig := do
  let f ← record? ["max_per_part", "base_similarity", "per_shared_part"] v
  some {
    maxPerPart := ← f.withDefault "max_per_part" uint64? 3
    baseSimilarity := ← f.withDefault "base_similarity" uint8? 50
    perSharedPart := ← f.withDefault "per_shared_part" uint8? 10 }

end RecommendationConfig

namespace ParallelConfig

def read? (v : V) : Option ParallelConfig := do
  let f ← record? ["enabled", "max_concurrency"] v
  some {
    enabled := ← f.withDefault "enabled" flag? true
    maxConcurrency := ← f.optional "max_concurrency" uint64? }

end ParallelConfig

namespace RetryPolicy

def read? (v : V) : Option RetryPolicy := do
  let f ← record? ["enabled", "max_retries", "transient_retries", "base_delay_ms", "strategy",
    "max_delay_ms"] v
  some {
    enabled := ← f.withDefault "enabled" flag? true
    maxRetries := ← f.withDefault "max_retries" uint32? 3
    transientRetries := ← f.withDefault "transient_retries" uint32? 1
    baseDelayMs := ← f.withDefault "base_delay_ms" uint64? 25
    strategy :=
      ← f.withDefault "strategy" (Document.choiceOf? RetryStrategy.ofText?) .exponential
    maxDelayMs := ← f.withDefault "max_delay_ms" uint64? 1000 }

end RetryPolicy

namespace RunConfig

def read? (v : V) : Option RunConfig := do
  let f ← record? ["timeout_seconds"] v
  some { timeoutSeconds := ← f.optional "timeout_seconds" uint64? }

end RunConfig

namespace Config

def read? (v : V) : Option Config := do
  let f ← record? ["scoring", "alerts", "recommendations", "parallel", "retry", "run"] v
  some {
    scoring := ← f.withDefault "scoring" ScoringConfig.read? {}
    alerts := ← f.withDefault "alerts" AlertConfig.read? {}
    recommendations := ← f.withDefault "recommendations" RecommendationConfig.read? {}
    parallel := ← f.withDefault "parallel" ParallelConfig.read? {}
    retry := ← f.withDefault "retry" RetryPolicy.read? {}
    run := ← f.withDefault "run" RunConfig.read? {} }

end Config

end Reading

section Writing

variable (real : Float → Json)

def Weights.toJson (w : Weights) : Json :=
  .object [("financial", real w.financial), ("delivery", real w.delivery),
    ("quality", real w.quality), ("geographical", real w.geographical)]

def FinancialThresholds.toJson (t : FinancialThresholds) : Json :=
  .object [("elevated_exposure", real t.elevatedExposure), ("high_exposure", real t.highExposure)]

def QualityThresholds.toJson (t : QualityThresholds) : Json :=
  .object [("moderate_part_count", .nat t.moderatePartCount.toNat),
    ("large_part_count", .nat t.largePartCount.toNat)]

def CountryTable.toJson (t : CountryTable) : Json :=
  .object [("high", .ofList .string t.high), ("medium", .ofList .string t.medium)]

def StockoutThresholds.toJson (t : StockoutThresholds) : Json :=
  .object [("critical_days", real t.criticalDays), ("high_days", real t.highDays),
    ("medium_days", real t.mediumDays)]

def ScoringConfig.toJson (c : ScoringConfig) : Json :=
  .object [("history_window_days", .nat c.historyWindowDays.toNat),
    ("weights", c.weights.toJson real), ("financial", c.financial.toJson real),
    ("quality", c.quality.toJson), ("countries", c.countries.toJson),
    ("stockout", c.stockout.toJson real)]

def AlertConfig.toJson (c : AlertConfig) : Json :=
  .object [("lookback_hours", .nat c.lookbackHours.toNat),
    ("default_alert_threshold", .nat c.defaultAlertThreshold.toNat),
    ("next_assessment_interval_days", .nat c.nextAssessmentIntervalDays.toNat)]

def RecommendationConfig.toJson (c : RecommendationConfig) : Json :=
  .object [("max_per_part", .nat c.maxPerPart.toNat),
    ("base_similarity", .nat c.baseSimilarity.toNat),
    ("per_shared_part", .nat c.perSharedPart.toNat)]

def ParallelConfig.toJson (c : ParallelConfig) : Json :=
  .object [("enabled", .bool c.enabled),
    ("max_concurrency", .ofOption (fun n => .nat n.toNat) c.maxConcurrency)]

def RetryPolicy.toJson (p : RetryPolicy) : Json :=
  .object [("enabled", .bool p.enabled), ("max_retries", .nat p.maxRetries.toNat),
    ("transient_retries", .nat p.transientRetries.toNat),
    ("base_delay_ms", .nat p.baseDelayMs.toNat), ("strategy", .string p.strategy.text),
    ("max_delay_ms", .nat p.maxDelayMs.toNat)]

def RunConfig.toJson (c : RunConfig) : Json :=
  .object [("timeout_seconds", .ofOption (fun n => .nat n.toNat) c.timeoutSeconds)]

def Config.toJson (c : Config) : Json :=
  .object [("scoring", c.scoring.toJson real), ("alerts", c.alerts.toJson),
    ("recommendations", c.recommendations.toJson), ("parallel", c.parallel.toJson),
    ("retry", c.retry.toJson), ("run", c.run.toJson)]

end Writing

end SupplyRisk
