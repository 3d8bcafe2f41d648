import SupplyRisk.Json.Reader
import SupplyRisk.Json.Writer
import SupplyRisk.Store.Basic

/-!
# Snapshots

The flat form of a store in data files.  Loading keeps the last of several entries with one number and the
order of the plain lists; a snapshot lists the records by number.
-/

namespace SupplyRisk

structure Snapshot where
  suppliers : List Supplier := []
  parts : List Part := []
  links : List SupplierPart := []
  orderLines : List OrderLine := []
  stockItems : List StockItem := []
  supplierRisks : List SupplierRisk := []
  partRisks : List PartRisk := []
  alerts : List Alert := []
  recommendations : List Recommendation := []
  events : List RiskEvent := []
deriving BEq

def Store.ofSnapshot (s : Snapshot) : Store where
  suppliers := .ofList s.suppliers
  parts := .ofList s.parts
  links := s.links
  orderLines := s.orderLines
  stockItems := s.stockItems
  supplierRisks := .ofList s.supplierRisks
  partRisks := .ofList s.partRisks
  alerts := .ofList s.alerts
  recommendations := .ofList s.recommendations
  events := .ofList s.events

def Store.snapshot (s : Store) : Snapshot where
  suppliers := s.suppliers.rows
  parts := s.parts.rows
  links := s.links
  orderLines := s.orderLines
  stockItems := s.stockItems
  supplierRisks := s.supplierRisks.rows
  partRisks := s.partRisks.rows
  alerts := s.alerts.rows
  recommendations := s.recommendations.rows
  events := s.events.rows

namespace Snapshot

/-- A section that may be missing. -/
def section? {α : Type} (f : Fields Json) (name : String) (read : Json → Option α) :
    Option (List α) :=
  f.withDefault name (Document.list? read) []

def read? (j : Json) : Option Snapshot := do
  let f ← Document.record? ["suppliers", "parts", "supplier_parts", "order_lines", "stock_items",
    "supplier_risks", "part_risks", "alerts", "recommendations", "events"] j
  some {
    suppliers := ← section? f "suppliers" Supplier.read?
    parts := ← section? f "parts" Part.read?
    links := ← section? f "supplier_parts" SupplierPart.read?
    orderLines := ← section? f "order_lines" OrderLine.read?
    stockItems := ← section? f "stock_items" StockItem.read?
    supplierRisks := ← section? f "supplier_risks" SupplierRisk.read?
    partRisks := ← section? f "part_risks" PartRisk.read?
    alerts := ← section? f "alerts" Alert.read?
    recommendations := ← section? f "recommendations" Recommendation.read?
    events := ← section? f "events" RiskEvent.read? }

def toJson (real : Float → Json) (s : Snapshot) : Json :=
  .object [("suppliers", .ofList Supplier.toJson s.suppliers),
    ("parts", .ofList Part.toJson s.parts),
    ("supplier_parts", .ofList SupplierPart.toJson s.links),
    ("order_lines", .ofList (OrderLine.toJson real) s.orderLines),
    ("stock_items", .ofList (StockItem.toJson real) s.stockItems),
    ("supplier_risks", .ofList (SupplierRisk.toJson real) s.supplierRisks),
    ("part_risks", .ofList PartRisk.toJson s.partRisks),
    ("alerts", .ofList Alert.toJson s.alerts),
    ("recommendations", .ofList Recommendation.toJson s.recommendations),
    ("events", .ofList RiskEvent.toJson s.events)]

/-- The snapshot that a text writes. -/
def parse? (text : String) : Option Snapshot := (Json.read? text).bind read?

/-- The text of a snapshot, without a final line end. -/
def render (s : Snapshot) : String := (s.toJson Json.real).pretty

end Snapshot

/-- The contents of a data file. -/
def Store.dataText (s : Store) : String := s.snapshot.render ++ "\n"

/-- The store in a data file. -/
def Store.ofDataText? (text : String) : Option Store := (Snapshot.parse? text).map Store.ofSnapshot

/-- How the records stand, in short: scores, levels and versions, the state of alerts, and counts. -/
def Store.standings (real : Float → Json) (s : Store) : Json :=
  .object [
    ("suppliers", .ofList (fun r : SupplierRisk => .array [idJson r.supplier.value, real r.overall,
      r.level.toJson, idJson r.version]) s.supplierRisks.rows),
    ("parts", .ofList (fun r : PartRisk => .array [idJson r.part.value, .nat r.combined.toNat,
      r.level.toJson, idJson r.version]) s.partRisks.rows),
    ("alerts", .ofList (fun a : Alert => .array [idJson a.id.value, a.level.toJson, .bool a.isOpen,
      .bool a.eventPending]) s.alerts.rows),
    ("recommendations", .nat s.recommendations.rows.length),
    ("events", .nat s.events.rows.length)]

end SupplyRisk
