import SupplyRisk.Failure
import SupplyRisk.Record.Alert

/-!
# Sending alerts out

Open alerts with recent activity are offered to a sink, the most severe first.  A refused notification does
not stop the others.
-/

namespace SupplyRisk

structure Notification where
  alert : AlertId
  entity : EntityRef
  severity : Level
  message : String
  time : Instant
deriving DecidableEq

namespace Notification

def ofAlert (a : Alert) : Notification := ⟨a.id, a.entity, a.level, a.message, a.lastActivity⟩

/-- Most severe first, then by alert. -/
def le (a b : Notification) : Bool :=
  b.severity.rank < a.severity.rank
    || (a.severity.rank = b.severity.rank && a.alert.value ≤ b.alert.value)

def toJson (n : Notification) : Json :=
  .object [("alert", idJson n.alert.value), ("entity", n.entity.toJson),
    ("severity", n.severity.toJson), ("message", .string n.message), ("at", n.time.toJson)]

end Notification

/-- Notifications of the open alerts whose last activity is not before the cutoff. -/
def dueSince (alerts : List Alert) (cutoff : Instant) : List Notification :=
  let due := alerts.filter (fun a => a.isOpen && cutoff.le a.lastActivity)
  (due.map Notification.ofAlert).mergeSort Notification.le

/-- Notifications of the open alerts with activity in the last hours, unless the calendar ends there. -/
def dueNotifications? (alerts : List Alert) (now : Instant) (lookbackHours : UInt32) :
    Option (List Notification) :=
  (now.subHours? lookbackHours.toNat).map (dueSince alerts)

structure DispatchReport where
  /-- The notifications that were accepted, in the order of sending. -/
  accepted : List Notification := []
  failed : List Failure := []
deriving DecidableEq

namespace DispatchReport

def sent (r : DispatchReport) : Nat := r.accepted.length

/-- The report after the answer to one more notification, which is the reason of a refusal if there is one. -/
def add (r : DispatchReport) (n : Notification) : Option RiskError → DispatchReport
  | none => { r with accepted := r.accepted ++ [n] }
  | some e => { r with failed := r.failed ++ [Failure.ofError n.entity .alertDispatch e] }

end DispatchReport

/-- Offers notifications one after the other, as an effect of each of which there is an answer. -/
def dispatchTo {m : Type → Type} [Monad m] (notify : Notification → m (Option RiskError))
    (notifications : List Notification) : m DispatchReport :=
  notifications.foldlM (fun report n => return report.add n (← notify n)) {}

/-- Where notifications go.  A sink either refuses a notification or keeps it, and remembers what it was offered. -/
structure Sink where
  /-- The reason for refusing a notification after those that were offered before it. -/
  refusal? : List Notification → Notification → Option RiskError

namespace Sink

/-- Accepts everything. -/
def accepting : Sink := ⟨fun _ _ => none⟩

/-- Refuses the notifications of the given alerts. -/
def refusing (ids : List AlertId) : Sink :=
  ⟨fun _ n => if n.alert ∈ ids then some (.dispatch ("sink refused " ++ n.alert.text)) else none⟩

/-- What the sink does when it is offered a notification. -/
def notify (sink : Sink) (n : Notification) : StateM (List Notification) (Option RiskError) := fun offered =>
  (sink.refusal? offered n, offered ++ [n])

end Sink

/-- Offers notifications to a sink to which nothing has been offered yet. -/
def dispatch (sink : Sink) (notifications : List Notification) : DispatchReport :=
  ((dispatchTo sink.notify notifications).run []).1

end SupplyRisk
