import SupplyRisk.Document

/-!
# Levels and categories of risk

Levels are ordered from low to critical.  High and critical together are called high risk.
-/

namespace SupplyRisk

inductive Level where
  | low
  | medium
  | high
  | critical
deriving DecidableEq, Repr

namespace Level

def rank : Level → Nat
  | low => 0
  | medium => 1
  | high => 2
  | critical => 3

instance : LE Level := ⟨fun a b => a.rank ≤ b.rank⟩
instance : LT Level := ⟨fun a b => a.rank < b.rank⟩
instance (a b : Level) : Decidable (a ≤ b) := inferInstanceAs (Decidable (a.rank ≤ b.rank))
instance (a b : Level) : Decidable (a < b) := inferInstanceAs (Decidable (a.rank < b.rank))

/-- High or critical. -/
def isHigh (l : Level) : Bool := decide (high ≤ l)

def text : Level → String
  | low => "low"
  | medium => "medium"
  | high => "high"
  | critical => "critical"

/-- The name in capitals, as messages show it. -/
def label : Level → String
  | low => "LOW"
  | medium => "MEDIUM"
  | high => "HIGH"
  | critical => "CRITICAL"

def ofText? : String → Option Level
  | "low" => some low
  | "medium" => some medium
  | "high" => some high
  | "critical" => some critical
  | _ => none

def toJson (l : Level) : Json := .string l.text

def read? (j : Json) : Option Level := Document.choiceOf? ofText? j

end Level

/-- What an alert or event is about; `supply` is the stock and sourcing of a part. -/
inductive Category where
  | financial
  | delivery
  | quality
  | geographical
  | political
  | environmental
  | supply
deriving DecidableEq, Repr

namespace Category

def text : Category → String
  | financial => "financial"
  | delivery => "delivery"
  | quality => "quality"
  | geographical => "geographical"
  | political => "political"
  | environmental => "environmental"
  | supply => "supply"

def ofText? : String → Option Category
  | "financial" => some financial
  | "delivery" => some delivery
  | "quality" => some quality
  | "geographical" => some geographical
  | "political" => some political
  | "environmental" => some environmental
  | "supply" => some supply
  | _ => none

def toJson (c : Category) : Json := .string c.text

def read? (j : Json) : Option Category := Document.choiceOf? ofText? j

end Category

end SupplyRisk
