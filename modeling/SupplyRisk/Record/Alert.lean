import SupplyRisk.Calendar.Instant.Reader
import SupplyRisk.Inventory.Json
import SupplyRisk.Level

/-!
# Alerts

An alert is open until it is resolved.  It shows the highest level seen while it is open.  `eventPending` marks
an alert that opened or escalated to high risk and whose risk event has not been logged yet.
-/

namespace SupplyRisk

def Instant.toJson (i : Instant) : Json := .string i.text

def Instant.ofJson? (j : Json) : Option Instant := (Document.text? j).bind Instant.read?

/-- An alert without a number yet. -/
structure AlertDraft where
  entity : EntityRef
  level : Level
  alertType : String
  category : Category
  message : String
  openedAt : Instant
  eventPending : Bool
deriving DecidableEq

/-- A draft; without a type it is a manual one, without a category a political one. -/
def AlertDraft.read? (j : Json) : Option AlertDraft := do
  let f ← Document.record? ["entity", "risk_level", "alert_type", "category", "message", "alert_date",
    "event_pending"] j
  some {
    entity := ← f.required "entity" EntityRef.read?
    level := ← f.required "risk_level" Level.read?
    alertType := ← f.withDefault "alert_type" Document.text? "manual"
    category := ← f.withDefault "category" Category.read? .political
    message := ← f.withDefault "message" Document.text? ""
    openedAt := ← f.required "alert_date" Instant.ofJson?
    eventPending := ← f.withDefault "event_pending" Document.flag? false }

structure Alert where
  id : AlertId
  entity : EntityRef
  level : Level
  alertType : String
  category : Category
  message : String
  resolved : Bool
  openedAt : Instant
  escalatedAt : Option Instant
  resolvedAt : Option Instant
  resolvedBy : Option String
  eventPending : Bool
  event : Option EventId
deriving DecidableEq

instance : Ranked Alert := ⟨fun a => a.id.value.toNat⟩

namespace Alert

def ofDraft (id : AlertId) (d : AlertDraft) : Alert where
  id := id
  entity := d.entity
  level := d.level
  alertType := d.alertType
  category := d.category
  message := d.message
  resolved := false
  openedAt := d.openedAt
  escalatedAt := none
  resolvedAt := none
  resolvedBy := none
  eventPending := d.eventPending
  event := none

def isOpen (a : Alert) : Bool := !a.resolved

/-- The latest escalation, or else the opening. -/
def lastActivity (a : Alert) : Instant := a.escalatedAt.getD a.openedAt

def escalate (a : Alert) (level : Level) (message : String) (at_ : Instant) : Alert :=
  { a with level := level, message := message, escalatedAt := some at_ }

def resolve (a : Alert) (at_ : Instant) (resolver : Option String) : Alert :=
  { a with resolved := true, resolvedAt := some at_, resolvedBy := resolver }

/-- Settles a pending event; without an event an earlier one stays. -/
def recordEvent (a : Alert) (event : Option EventId) : Alert :=
  { a with eventPending := false, event := event <|> a.event }

/-- Most severe first, then by number. -/
def severityLe (a b : Alert) : Bool :=
  b.level.rank < a.level.rank || (a.level.rank = b.level.rank && a.id.value ≤ b.id.value)

def read? (j : Json) : Option Alert := do
  let f ← Document.record? ["id", "entity", "risk_level", "alert_type", "category", "message",
    "resolved", "alert_date", "escalated_at", "resolved_date", "resolved_by", "event_pending",
    "risk_event"] j
  some {
    id := ← f.required "id" AlertId.read?
    entity := ← f.required "entity" EntityRef.read?
    level := ← f.required "risk_level" Level.read?
    alertType := ← f.required "alert_type" Document.text?
    category := ← f.required "category" Category.read?
    message := ← f.required "message" Document.text?
    resolved := ← f.withDefault "resolved" Document.flag? false
    openedAt := ← f.required "alert_date" Instant.ofJson?
    escalatedAt := ← f.optional "escalated_at" Instant.ofJson?
    resolvedAt := ← f.optional "resolved_date" Instant.ofJson?
    resolvedBy := ← f.optional "resolved_by" Document.text?
    eventPending := ← f.withDefault "event_pending" Document.flag? false
    event := ← f.optional "risk_event" EventId.read? }

def toJson (a : Alert) : Json :=
  .object [("id", idJson a.id.value), ("entity", a.entity.toJson), ("risk_level", a.level.toJson),
    ("alert_type", .string a.alertType), ("category", a.category.toJson),
    ("message", .string a.message), ("resolved", .bool a.resolved),
    ("alert_date", a.openedAt.toJson), ("escalated_at", .ofOption Instant.toJson a.escalatedAt),
    ("resolved_date", .ofOption Instant.toJson a.resolvedAt),
    ("resolved_by", .ofOption .string a.resolvedBy), ("event_pending", .bool a.eventPending),
    ("risk_event", .ofOption (fun id => idJson id.value) a.event)]

end Alert

end SupplyRisk
