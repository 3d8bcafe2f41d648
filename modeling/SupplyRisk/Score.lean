import SupplyRisk.Error

/-!
# Factor scores

A whole number from 0 to 100; higher means riskier.  The bound is part of the type, so a score can only come
from a checked value (`Score.ofInt?`) or from rounding and clamping a computed one (`Score.saturating`).
-/

namespace SupplyRisk

structure Score where
  value : Nat
  value_le : value ≤ 100
deriving DecidableEq

namespace Score

def zero : Score := ⟨0, by decide⟩

/-- The score where there is nothing to judge by. -/
def neutral : Score := ⟨50, by decide⟩

def greatest : Score := ⟨100, by decide⟩

/-- The score of a value in range. -/
def ofInt? (n : Int) : Option Score :=
  if h : 0 ≤ n ∧ n ≤ 100 then some ⟨n.toNat, by omega⟩ else none

/-- The score of a value, refused outside the range. -/
def ofInt (n : Int) : Except RiskError Score :=
  match ofInt? n with
  | some s => .ok s
  | none => .error (.outOfRange "factor score" n 0 100)

/-- Rounds half away from zero and clamps; what is not a number scores zero. -/
def saturating (x : Float) : Score :=
  if x.isNaN then zero
  else
    let rounded := x.round
    if rounded ≤ 0 then zero
    else if 100 ≤ rounded then greatest
    else ⟨min rounded.toUInt8.toNat 100, Nat.min_le_right _ _⟩

def toFloat (s : Score) : Float := Float.ofNat s.value

def text (s : Score) : String := natString s.value

def toJson (s : Score) : Json := .nat s.value

def read? (j : Json) : Option Score := (Document.int64? j).bind ofInt?

end Score

end SupplyRisk
