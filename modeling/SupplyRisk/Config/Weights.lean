import SupplyRisk.Decimal.Fixed
import SupplyRisk.Document

/-!
# Weights of the supplier factors

Four weights, one per factor, that should sum to one.  `normalize` rescales them, `problem?` names what is
wrong with them.
-/

namespace SupplyRisk

structure Weights where
  financial : Float := 0.3
  delivery : Float := 0.3
  quality : Float := 0.3
  geographical : Float := 0.1

namespace Weights

def toList (w : Weights) : List Float := [w.financial, w.delivery, w.quality, w.geographical]

def sum (w : Weights) : Float := w.financial + w.delivery + w.quality + w.geographical

/-- Between zero and one. -/
def isValid (x : Float) : Bool := decide (0 ≤ x) && decide (x ≤ 1)

/-- What is wrong with one weight. -/
def weightProblem? (name : String) (x : Float) : Option String :=
  if isValid x then none else some (name ++ " weight must be between 0.0 and 1.0")

/-- The greatest distance of the sum from one that is tolerated. -/
def tolerance : Float := 0.001

/-- What is wrong with the sum. -/
def sumProblem? (w : Weights) : Option String :=
  if tolerance < (w.sum - 1).abs then
    some ("Supplier factor weights must sum to 1.0, but sum to " ++ Decimal.fixedText 3 w.sum)
  else none

/-- The first thing that is wrong: a single weight, in the order of the factors, or the sum. -/
def problem? (w : Weights) : Option String :=
  weightProblem? "Financial" w.financial
    <|> weightProblem? "Delivery" w.delivery
    <|> weightProblem? "Quality" w.quality
    <|> weightProblem? "Geographical" w.geographical
    <|> w.sumProblem?

/-- The distance between one and the next double. -/
def epsilon : Float := Float.ofBits 0x3CB0000000000000

/-- Divides by the sum if that is positive and not one. -/
def normalize (w : Weights) : Weights :=
  let s := w.sum
  if 0 < s && epsilon < (s - 1).abs then
    ⟨w.financial / s, w.delivery / s, w.quality / s, w.geographical / s⟩
  else w

end Weights

end SupplyRisk
