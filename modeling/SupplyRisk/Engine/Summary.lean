import SupplyRisk.Engine.Assess
import SupplyRisk.Failure.Json

/-!
# Tallies and summaries

A `Tally` counts what the entities of one pass contributed.  A `RunSummary` adds up the tallies of a run and
keeps the failures in the order of entities and operations.
-/

namespace SupplyRisk

structure Tally where
  processed : Nat := 0
  highRisk : Nat := 0
  eventsCreated : Nat := 0
  belowStockThreshold : Nat := 0
  recommendations : Nat := 0
  skipped : Nat := 0
  failures : List Failure := []
deriving DecidableEq

namespace Tally

/-- Counts the outcome of an entity. -/
def record (t : Tally) (o : Outcome) : Tally :=
  { t with
    processed := t.processed + 1
    highRisk := t.highRisk + o.highRisk.toNat
    eventsCreated := t.eventsCreated + o.eventCreated.toNat
    belowStockThreshold := t.belowStockThreshold + o.belowStockThreshold.toNat
    recommendations := t.recommendations + o.recommendations }

def fail (t : Tally) (f : Failure) : Tally := { t with failures := t.failures ++ [f] }

def skip (t : Tally) : Tally := { t with skipped := t.skipped + 1 }

/-- The tally of two parts of a pass together. -/
def merge (a b : Tally) : Tally where
  processed := a.processed + b.processed
  highRisk := a.highRisk + b.highRisk
  eventsCreated := a.eventsCreated + b.eventsCreated
  belowStockThreshold := a.belowStockThreshold + b.belowStockThreshold
  recommendations := a.recommendations + b.recommendations
  skipped := a.skipped + b.skipped
  failures := a.failures ++ b.failures

end Tally

structure RunSummary where
  suppliersAssessed : Nat := 0
  suppliersHighRisk : Nat := 0
  partsAssessed : Nat := 0
  partsHighRisk : Nat := 0
  partsBelowStockThreshold : Nat := 0
  recommendationsGenerated : Nat := 0
  alertsDispatched : Nat := 0
  riskEventsCreated : Nat := 0
  /-- Entities that were not assessed because the time of the run was over. -/
  skippedByTimeout : Nat := 0
  elapsedMs : Nat := 0
  errors : List Failure := []
deriving DecidableEq

namespace RunSummary

/-- Adds what all passes count. -/
def addPass (s : RunSummary) (t : Tally) : RunSummary :=
  { s with
    riskEventsCreated := s.riskEventsCreated + t.eventsCreated
    skippedByTimeout := s.skippedByTimeout + t.skipped
    errors := s.errors ++ t.failures }

def addSuppliers (s : RunSummary) (t : Tally) : RunSummary :=
  { s.addPass t with
    suppliersAssessed := s.suppliersAssessed + t.processed
    suppliersHighRisk := s.suppliersHighRisk + t.highRisk }

def addParts (s : RunSummary) (t : Tally) : RunSummary :=
  { s.addPass t with
    partsAssessed := s.partsAssessed + t.processed
    partsHighRisk := s.partsHighRisk + t.highRisk
    partsBelowStockThreshold := s.partsBelowStockThreshold + t.belowStockThreshold }

def addRecommendations (s : RunSummary) (t : Tally) : RunSummary :=
  { s.addPass t with
    recommendationsGenerated := s.recommendationsGenerated + t.recommendations }

def sortErrors (s : RunSummary) : RunSummary := { s with errors := s.errors.mergeSort Failure.le }

def hasErrors (s : RunSummary) : Bool := !s.errors.isEmpty

/-- The counters by name, the elapsed time apart. -/
def counters (s : RunSummary) : List (String × Nat) :=
  [("suppliers_assessed", s.suppliersAssessed), ("suppliers_high_risk", s.suppliersHighRisk),
    ("parts_assessed", s.partsAssessed), ("parts_high_risk", s.partsHighRisk),
    ("parts_below_stock_threshold", s.partsBelowStockThreshold),
    ("recommendations_generated", s.recommendationsGenerated),
    ("alerts_dispatched", s.alertsDispatched), ("risk_events_created", s.riskEventsCreated),
    ("skipped_by_timeout", s.skippedByTimeout)]

/-- The summary with the given elapsed time, or without any. -/
def toJson (s : RunSummary) (elapsed : Option Nat) : Json :=
  .object (s.counters.map (fun c => (c.1, .nat c.2))
    ++ elapsed.toList.map (fun ms => ("elapsed_ms", .nat ms))
    ++ [("errors", .ofList Failure.toJson s.errors)])

/-- A summary from its counters and the descriptions of its failures; what is missing is zero or empty. -/
def read? (j : Json) : Option RunSummary := do
  let f ← Document.record? ["suppliers_assessed", "suppliers_high_risk", "parts_assessed",
    "parts_high_risk", "parts_below_stock_threshold", "recommendations_generated",
    "alerts_dispatched", "risk_events_created", "skipped_by_timeout", "elapsed_ms", "errors"] j
  let count := fun name => f.withDefault name (fun v => (Document.uint64? v).map UInt64.toNat) 0
  some {
    suppliersAssessed := ← count "suppliers_assessed"
    suppliersHighRisk := ← count "suppliers_high_risk"
    partsAssessed := ← count "parts_assessed"
    partsHighRisk := ← count "parts_high_risk"
    partsBelowStockThreshold := ← count "parts_below_stock_threshold"
    recommendationsGenerated := ← count "recommendations_generated"
    alertsDispatched := ← count "alerts_dispatched"
    riskEventsCreated := ← count "risk_events_created"
    skippedByTimeout := ← count "skipped_by_timeout"
    elapsedMs := ← count "elapsed_ms"
    errors := ← f.withDefault "errors" (Document.list? Failure.read?) [] }

/-- One counter of the summary text. -/
def counterLine (label : String) (value : Nat) : String :=
  "  " ++ String.ofList (label.toList ++ List.replicate (30 - label.length) ' ') ++ " "
    ++ natString value ++ "\n"

/-- The summary for people. -/
def text (s : RunSummary) : String :=
  "Assessment summary\n"
    ++ counterLine "Suppliers assessed" s.suppliersAssessed
    ++ counterLine "Suppliers at high risk" s.suppliersHighRisk
    ++ counterLine "Parts assessed" s.partsAssessed
    ++ counterLine "Parts at high risk" s.partsHighRisk
    ++ counterLine "Parts below stock threshold" s.partsBelowStockThreshold
    ++ counterLine "Recommendations generated" s.recommendationsGenerated
    ++ counterLine "Alerts dispatched" s.alertsDispatched
    ++ counterLine "Risk events created" s.riskEventsCreated
    ++ (if s.skippedByTimeout = 0 then "" else
        "  " ++ natString s.skippedByTimeout ++ " entities skipped: run timeout reached\n")
    ++ (if s.hasErrors then
        "  " ++ natString s.errors.length ++ " entities failed\n"
          ++ (FailureSummary.ofFailures s.errors).report
        else "  No errors\n")
    ++ "  Finished in " ++ natString s.elapsedMs ++ " ms\n"

end RunSummary

end SupplyRisk
