import SupplyRisk.Decimal.Shortest
import SupplyRisk.Word

/-!
# JSON trees

A tree keeps what a text says: members in their order, repeated keys included, and numbers as they are
written.  Text whose escapes leave a surrogate unpaired denotes no string; such a string, and an object
with such a key, becomes `unreadable`, which may be skipped but never read.
-/

namespace SupplyRisk

open Decimal

inductive Json where
  | null
  | bool (value : Bool)
  | number (value : Numeral)
  | string (value : String)
  | array (items : List Json)
  | object (members : List (String × Json))
  | unreadable
deriving Inhabited

namespace Json

def nat (n : Nat) : Json := number (.ofNat n)

def int (n : Int) : Json := number (.ofInt n)

/-- A double as data files hold it; the special values are null. -/
def real (x : Float) : Json :=
  match Layout.stored.numeral? x with
  | some n => number n
  | none => null

/-- A value that may be absent; absence is null. -/
def ofOption {α : Type} (f : α → Json) : Option α → Json
  | none => null
  | some a => f a

def ofList {α : Type} (f : α → Json) (as : List α) : Json := array (as.map f)

/-- The value of a key, the last one if it is repeated. -/
def member? (key : String) : Json → Option Json
  | object members => (members.reverse.find? (fun m => m.1 == key)).map (·.2)
  | _ => none

/-- The powers of ten up to the largest that is a double. -/
def greatestPower : Nat := 308

/-- Divides by ten to the given power, in steps of the greatest power. -/
def divideByPower : Nat → Float → Nat → Float
  | 0, x, _ => x
  | fuel + 1, x, power =>
      if power ≤ greatestPower then x / Binary64.ofDecimal 1 power
      else if x == 0 then x
      else divideByPower fuel (x / Binary64.ofDecimal 1 greatestPower) (power - greatestPower)

/-- `significand · 10 ^ exponent` by one multiplication or by divisions, each rounded; nothing beyond
the largest double. -/
def scaled? (significand : UInt64) (exponent : Int) : Option Float :=
  let x := significand.toFloat
  if 0 ≤ exponent then
    if exponent ≤ greatestPower then
      let y := x * Binary64.ofDecimal 1 exponent
      if y.isInf then none else some y
    else if significand = 0 then some x
    else none
  else
    some (divideByPower ((-exponent).toNat / greatestPower + 1) x (-exponent).toNat)

/-- The leading digits that fit 64 bits, and how many digits were left over. -/
def leadingDigits : UInt64 → List Digit → UInt64 × Nat
  | significand, [] => (significand, 0)
  | significand, d :: ds =>
      let next := 10 * significand.toNat + d.val
      if next < Word.count64 then leadingDigits (UInt64.ofNat next) ds else (significand, ds.length + 1)

/-- The double that a written number stands for.  Digits beyond 64 bits are dropped and the power of ten
is applied with rounding, so the result may differ from the nearest double in its last places. -/
def ofNumeral? (n : Numeral) : Option Float :=
  let (whole, wholeLeft) := leadingDigits 0 (digits n.whole)
  let (significand, fractionLeft) := leadingDigits whole n.fraction
  let used : Int := n.fraction.length - fractionLeft
  let magnitude := scaled? significand (wholeLeft - used + n.exponent.getD 0)
  magnitude.map (fun x => if n.negative then -x else x)

end Json

end SupplyRisk
