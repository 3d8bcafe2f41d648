import SupplyRisk.Entity

/-!
# What the engine is doing

A `Context` says which phase is under way and for which entity.  It is set for the length of a scope: a guard
keeps the context that was in force and brings it back.  A `Tracker` adds the progress of the current pass.
-/

namespace SupplyRisk

inductive Phase where
  | enumeration
  | supplierAssessment
  | partAssessment
  | recommendationGeneration
  | alertDispatch
  | reporting
deriving DecidableEq

namespace Phase

def text : Phase → String
  | enumeration => "enumeration"
  | supplierAssessment => "supplier_assessment"
  | partAssessment => "part_assessment"
  | recommendationGeneration => "recommendation_generation"
  | alertDispatch => "alert_dispatch"
  | reporting => "reporting"

def ofText? : String → Option Phase
  | "enumeration" => some enumeration
  | "supplier_assessment" => some supplierAssessment
  | "part_assessment" => some partAssessment
  | "recommendation_generation" => some recommendationGeneration
  | "alert_dispatch" => some alertDispatch
  | "reporting" => some reporting
  | _ => none

end Phase

structure Context where
  phase : Option Phase := none
  entity : Option EntityRef := none
deriving DecidableEq

namespace Context

def inPhase (c : Context) (phase : Phase) : Context := { c with phase := some phase }

def onEntity (c : Context) (entity : EntityRef) : Context := { c with entity := some entity }

end Context

structure Tracker where
  context : Context := {}
  processed : UInt64 := 0
  total : UInt64 := 0
deriving DecidableEq

namespace Tracker

def setProgress (t : Tracker) (processed total : UInt64) : Tracker := { t with processed, total }

def increment (t : Tracker) : Tracker := { t with processed := t.processed + 1 }

def resetContext (t : Tracker) : Tracker := { t with context := {} }

end Tracker

/-- A tracker with the guards of the scopes that are open, the innermost first. -/
structure GuardedTracker where
  tracker : Tracker := {}
  /-- The contexts that the guards will bring back. -/
  saved : List Context := []

namespace GuardedTracker

/-- Opens a scope with a changed context. -/
def enter (g : GuardedTracker) (change : Context → Context) : GuardedTracker :=
  { tracker := { g.tracker with context := change g.tracker.context }
    saved := g.tracker.context :: g.saved }

/-- Closes the innermost scope. -/
def leave (g : GuardedTracker) : GuardedTracker :=
  match g.saved with
  | [] => g
  | context :: saved => { tracker := { g.tracker with context }, saved }

end GuardedTracker

end SupplyRisk
