import SupplyRisk.Store.Fault
import SupplyRisk.Store.Fixture

/-!
# Scenarios in JSON

How fixtures and faults are read.  A fixture is a reference day with a list of steps, each an array of the
step's name and its arguments.
-/

namespace SupplyRisk

open Document (text? flag? real? uint32? uint64? int64? orNull? list?)

namespace FixtureStep

/-- The step of a name with its arguments. -/
def ofCall? (name : String) (arguments : List Json) : Option FixtureStep :=
  match name, arguments with
  | "supplier", [id, name, country] => do
      some (.supplier (← SupplierId.read? id) (← text? name) (← orNull? text? country))
  | "inactive_supplier", [id, name] => do
      some (.inactiveSupplier (← SupplierId.read? id) (← text? name))
  | "category", [id, name] => do some (.category (← uint64? id) (← text? name))
  | "part", [id, name, category?] => do
      some (.part (← PartId.read? id) (← text? name) (← orNull? uint64? category?))
  | "low_stock_threshold", [id, n] => do
      some (.lowStockThreshold (← PartId.read? id) (← uint32? n))
  | "supplies", [seller, id] => do
      some (.supplies (← SupplierId.read? seller) (← PartId.read? id))
  | "stock", [id, quantity] => do some (.stock (← PartId.read? id) (← real? quantity))
  | "open_order", [seller, id, days, quantity, price] => do
      some (.openOrder (← SupplierId.read? seller) (← PartId.read? id) (← int64? days)
        (← real? quantity) (← real? price))
  | "delivery", [seller, id, days, quantity, late] => do
      some (.delivery (← SupplierId.read? seller) (← PartId.read? id) (← int64? days)
        (← real? quantity) (← flag? late))
  | "long_lead_time", [id] => do some (.longLeadTime (← PartId.read? id))
  | "high_value", [id] => do some (.highValue (← PartId.read? id))
  | "alert_threshold", [id, threshold] => do
      some (.alertThreshold (← SupplierId.read? id) (← int64? threshold))
  | _, _ => none

def read? (j : Json) : Option FixtureStep := do
  match ← list? some j with
  | [] => none
  | name :: arguments => ofCall? (← text? name) arguments

end FixtureStep

/-- Why a fixture has no store. -/
inductive FixtureFault where
  | unreadable
  /-- A date outside of the calendar, or a contradiction between the steps. -/
  | inconsistent
deriving DecidableEq

namespace Fixture

/-- The fixture after one more step. -/
def addRead (f : Fixture) (step : Json) : Except FixtureFault Fixture :=
  match FixtureStep.read? step with
  | none => .error .unreadable
  | some step =>
      match f.add? step with
      | none => .error .inconsistent
      | some f => .ok f

/-- The store of a fixture.  The steps are read one after the other, so the first fault counts. -/
def readStore (j : Json) : Except FixtureFault Store :=
  match (j.member? "today").bind Date.ofJson?, (j.member? "calls").bind (list? some) with
  | some today, some steps => do
      let f ← steps.foldlM addRead { today }
      match f.build with
      | .ok store => .ok store
      | .error _ => .error .inconsistent
  | _, _ => .error .unreadable

end Fixture

namespace Faults

def read? (j : Json) : Option Faults := do
  let f ← Document.record? ["missing", "transient_once", "conflict_once", "failing_enumeration",
    "failing_event_once"] j
  some {
    missing := .ofList (← f.withDefault "missing" (list? EntityRef.read?) [])
    transientOnce := .ofList (← f.withDefault "transient_once" (list? EntityRef.read?) [])
    conflictOnce := .ofList (← f.withDefault "conflict_once" (list? EntityRef.read?) [])
    failingListings := ← f.withDefault "failing_enumeration" flag? false
    failingEventOnce := ← f.withDefault "failing_event_once" flag? false }

end Faults

end SupplyRisk
