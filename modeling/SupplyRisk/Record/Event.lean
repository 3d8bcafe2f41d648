import SupplyRisk.Inventory.Json
import SupplyRisk.Level

/-!
# Risk events

The log of notable risk conditions.  Only the resolution of an event may change, and its date is set by the
first resolution.
-/

namespace SupplyRisk

/-- An event without a number yet. -/
structure EventDraft where
  date : Date
  title : String
  description : String
  category : Category
  severity : Level
  affectedSuppliers : Roster SupplierId
  affectedParts : Roster PartId
deriving DecidableEq

def EventDraft.read? (j : Json) : Option EventDraft := do
  let f ← Document.record? ["event_date", "title", "description", "category", "severity",
    "affected_suppliers", "affected_parts"] j
  some {
    date := ← f.required "event_date" Date.ofJson?
    title := ← f.withDefault "title" Document.text? ""
    description := ← f.withDefault "description" Document.text? ""
    category := ← f.required "category" Category.read?
    severity := ← f.required "severity" Level.read?
    affectedSuppliers :=
      .ofList (← f.withDefault "affected_suppliers" (Document.list? SupplierId.read?) [])
    affectedParts := .ofList (← f.withDefault "affected_parts" (Document.list? PartId.read?) []) }

structure RiskEvent where
  id : EventId
  date : Date
  title : String
  description : String
  category : Category
  severity : Level
  affectedSuppliers : Roster SupplierId
  affectedParts : Roster PartId
  resolved : Bool
  resolutionDate : Option Date
  resolutionNotes : String
deriving DecidableEq

instance : Ranked RiskEvent := ⟨fun e => e.id.value.toNat⟩

namespace RiskEvent

def ofDraft (id : EventId) (d : EventDraft) : RiskEvent where
  id := id
  date := d.date
  title := d.title
  description := d.description
  category := d.category
  severity := d.severity
  affectedSuppliers := d.affectedSuppliers
  affectedParts := d.affectedParts
  resolved := false
  resolutionDate := none
  resolutionNotes := ""

/-- Resolves the event; a later resolution only changes the notes. -/
def resolve (e : RiskEvent) (notes : String) (on : Date) : RiskEvent :=
  { e with
    resolved := true
    resolutionDate := if e.resolved then e.resolutionDate else some on
    resolutionNotes := notes }

def read? (j : Json) : Option RiskEvent := do
  let f ← Document.record? ["id", "event_date", "title", "description", "category", "severity",
    "affected_suppliers", "affected_parts", "resolved", "resolution_date", "resolution_notes"] j
  some {
    id := ← f.required "id" EventId.read?
    date := ← f.required "event_date" Date.ofJson?
    title := ← f.required "title" Document.text?
    description := ← f.required "description" Document.text?
    category := ← f.required "category" Category.read?
    severity := ← f.required "severity" Level.read?
    affectedSuppliers :=
      .ofList (← f.withDefault "affected_suppliers" (Document.list? SupplierId.read?) [])
    affectedParts := .ofList (← f.withDefault "affected_parts" (Document.list? PartId.read?) [])
    resolved := ← f.withDefault "resolved" Document.flag? false
    resolutionDate := ← f.optional "resolution_date" Date.ofJson?
    resolutionNotes := ← f.withDefault "resolution_notes" Document.text? "" }

def toJson (e : RiskEvent) : Json :=
  .object [("id", idJson e.id.value), ("event_date", e.date.toJson), ("title", .string e.title),
    ("description", .string e.description), ("category", e.category.toJson),
    ("severity", e.severity.toJson),
    ("affected_suppliers", .ofList (fun id => idJson id.value) e.affectedSuppliers.rows),
    ("affected_parts", .ofList (fun id => idJson id.value) e.affectedParts.rows),
    ("resolved", .bool e.resolved), ("resolution_date", .ofOption Date.toJson e.resolutionDate),
    ("resolution_notes", .string e.resolutionNotes)]

end RiskEvent

end SupplyRisk
