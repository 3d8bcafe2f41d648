import SupplyRisk.Store.Script

/-!
# The life of an alert

After every assessment the entity's alert is brought in line with its level: an alert opens at medium or
above, escalates when the level rises above the one it shows, is resolved at low, and otherwise stays as it
is.  So an open alert shows the highest level since it opened.
-/

namespace SupplyRisk

inductive AlertState where
  | none
  | openMedium
  /-- Open at high or critical. -/
  | openHigh
  | resolved
deriving DecidableEq

namespace AlertState

/-- The state of an entity with the given open alert. -/
def ofOpen : Option Alert → AlertState
  | .none => .none
  | .some alert => if alert.level.isHigh then .openHigh else .openMedium

def text : AlertState → String
  | none => "none"
  | openMedium => "open_medium"
  | openHigh => "open_high"
  | resolved => "resolved"

end AlertState

inductive AlertTransition where
  | opening (level : Level)
  | escalate (before after : Level)
  | resolve
  | noChange
deriving DecidableEq

namespace AlertTransition

/-- The transition of an entity with the given open alert, newly assessed at `level`. -/
def plan (current : Option Alert) (level : Level) : AlertTransition :=
  match current with
  | none => if .medium ≤ level then .opening level else .noChange
  | some alert =>
      if level = .low then .resolve
      else if alert.level < level then .escalate alert.level level
      else .noChange

/-- An alert opens at, or escalates to, high or above. -/
def raisesHigh : AlertTransition → Bool
  | opening level => level.isHigh
  | escalate _ after => after.isHigh
  | _ => false

def toJson : AlertTransition → Json
  | opening level => .object [("open", level.toJson)]
  | escalate before after => .object [("escalate", .array [before.toJson, after.toJson])]
  | resolve => .string "resolve"
  | noChange => .string "no_change"

end AlertTransition

/-- What an assessment says about the alert of its entity. -/
structure AlertContext where
  entity : EntityRef
  level : Level
  category : Category
  alertType : String
  message : String

/-- What a caller of its own knows about an entity; the category is quality unless it says so. -/
def AlertContext.read? (alertType : String) (j : Json) : Option AlertContext := do
  let f ← Document.record? ["entity", "level", "category", "message"] j
  some {
    entity := ← f.required "entity" EntityRef.read?
    level := ← f.required "level" Level.read?
    category := ← f.withDefault "category" Category.read? .quality
    alertType
    message := ← f.withDefault "message" Document.text? "" }

/-- What became of the alert; the alert after the transition, if there is one. -/
structure AlertOutcome where
  transition : AlertTransition
  state : AlertState
  alert : Option Alert

def AlertOutcome.toJson (o : AlertOutcome) : Json :=
  .object [("transition", o.transition.toJson), ("state", .string o.state.text),
    ("alert", .ofOption Alert.toJson o.alert)]

namespace AlertContext

/-- The alert that opens. -/
def draft (c : AlertContext) (level : Level) (now : Instant) : AlertDraft where
  entity := c.entity
  level := level
  alertType := c.alertType
  category := c.category
  message := c.message
  openedAt := now
  eventPending := level.isHigh

/-- The open alert after it escalated. -/
def escalated (c : AlertContext) (alert : Alert) (level : Level) (now : Instant) : Alert :=
  let raised := alert.escalate level c.message now
  { raised with eventPending := raised.eventPending || level.isHigh }

/-- Carries out the transition planned for the open alert that was read. -/
def apply (c : AlertContext) (current : Option Alert) (now : Instant) : Script AlertOutcome :=
  let transition := AlertTransition.plan current c.level
  match transition, current with
  | .opening level, _ => do
      let alert ← Script.ask (.insertAlert (c.draft level now))
      return ⟨transition, .ofOpen (some alert), some alert⟩
  | .escalate _ level, some alert => do
      let alert := c.escalated alert level now
      Script.ask (.updateAlert alert)
      return ⟨transition, .ofOpen (some alert), some alert⟩
  | .resolve, some alert => do
      let alert := alert.resolve now none
      Script.ask (.updateAlert alert)
      return ⟨transition, .resolved, some alert⟩
  | _, current => return ⟨transition, .ofOpen current, current⟩

/-- Brings the entity's alert in line with its level.  If another writer opened an alert between the read and
the write, the alert is read once more. -/
def reconcile (c : AlertContext) (now : Instant) : Script AlertOutcome := do
  let current ← Script.ask (.openAlert c.entity)
  (c.apply current now).recover (fun
    | .uniqueViolation _ => do
        let current ← Script.ask (.openAlert c.entity)
        c.apply current now
    | e => Script.fail e)

end AlertContext

/-- Resolves an alert for a reviewer; an alert that is already resolved stays as it is. -/
def resolveAlert (id : AlertId) (resolver : Option String) (now : Instant) : Script Alert := do
  let alert ← Script.ask (.alert id)
  if alert.isOpen then
    let alert := alert.resolve now resolver
    Script.ask (.updateAlert alert)
    return alert
  else return alert

end SupplyRisk
