import SupplyRisk.Entity

/-!
# Errors

The causes for which an operation can fail, with their kinds, codes and messages.  Conflicts and transient
failures may go away when the operation is repeated.
-/

namespace SupplyRisk

/-- What a file or text outside the store went wrong with. -/
inductive ExchangeFault where
  /-- The operating system refused; the text is its explanation. -/
  | system (message : String)
  /-- The text is not JSON of the expected shape. -/
  | json
  /-- The text is not comma-separated rows of the expected shape. -/
  | csv
deriving DecidableEq

inductive RiskError where
  | notFound (entity : EntityRef)
  | recordNotFound (record : String)
  | validation (field message : String)
  | transient (message : String)
  | conflict (entity : EntityRef) (expected found : UInt64)
  | uniqueViolation (message : String)
  | enumeration (target message : String)
  | config (message : String)
  | timeout
  | dispatch (message : String)
  | exchange (fault : ExchangeFault)
deriving DecidableEq

namespace ExchangeFault

/-- The text of a fault; malformed texts are only named. -/
def message : ExchangeFault → String
  | system message => message
  | json => "<json>"
  | csv => "<csv>"

end ExchangeFault

namespace RiskError

/-- A value outside of its allowed range. -/
def outOfRange (field : String) (value least greatest : Int) : RiskError :=
  let shown := fun n : Int => String.ofList (Decimal.intText n)
  .validation field
    (shown value ++ " is outside the allowed range [" ++ shown least ++ ", " ++ shown greatest ++ "]")

def message : RiskError → String
  | notFound entity => entity.text ++ " not found"
  | recordNotFound record => "Record not found: " ++ record
  | validation field message => "Invalid " ++ field ++ ": " ++ message
  | transient message => "Transient store error: " ++ message
  | conflict entity expected found =>
      "Concurrent update of " ++ entity.text ++ ": expected version " ++ natString expected.toNat
        ++ ", found " ++ natString found.toNat
  | uniqueViolation message => "Unique constraint violated: " ++ message
  | enumeration target message => "Failed to enumerate " ++ target ++ ": " ++ message
  | config message => "Configuration error: " ++ message
  | timeout => "Assessment deadline expired"
  | dispatch message => "Notification dispatch failed: " ++ message
  | exchange fault => fault.message

/-- A failed listing, with the text of its cause. -/
def enumerating (target : String) (cause : RiskError) : RiskError :=
  .enumeration target cause.message

/-- The short name under which failures are grouped. -/
def kind : RiskError → String
  | notFound _ | recordNotFound _ => "not_found"
  | validation _ _ => "validation"
  | transient _ => "transient_store"
  | conflict _ _ _ => "conflict"
  | uniqueViolation _ => "unique_violation"
  | enumeration _ _ => "enumeration"
  | config _ => "config"
  | timeout => "timeout"
  | dispatch _ => "dispatch"
  | exchange _ => "io"

def code : RiskError → String
  | notFound _ | recordNotFound _ => "E001"
  | transient _ => "E002"
  | conflict _ _ _ => "E003"
  | uniqueViolation _ => "E004"
  | exchange _ => "E009"
  | validation _ _ => "E010"
  | config _ => "E020"
  | enumeration _ _ => "E030"
  | timeout => "E031"
  | dispatch _ => "E032"

def isConflict : RiskError → Bool
  | conflict _ _ _ => true
  | _ => false

def isTransient : RiskError → Bool
  | transient _ => true
  | _ => false

/-- Whether the same operation may succeed when it is repeated. -/
def isRetryable (e : RiskError) : Bool := e.isConflict || e.isTransient

end RiskError

end SupplyRisk
