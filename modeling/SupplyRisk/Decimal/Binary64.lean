/-!
# Doubles as exact binary fractions

A double is a sign, a whole significand and a power of two, or one of the special values.  This module
reads that off the 64 bits (`Binary64.ofBits`), and rounds a quotient of whole numbers to the nearest
double (`Binary64.nearestBits`), ties going to the even significand.  All arithmetic is on whole numbers.
-/

namespace SupplyRisk.Decimal

/-- What the 64 bits of a double stand for; a finite one is `± significand · 2 ^ exponent`. -/
inductive Binary64 where
  | finite (negative : Bool) (significand : Nat) (exponent : Int)
  | infinite (negative : Bool)
  | nan
deriving DecidableEq, Repr

namespace Binary64

/-- Exponent of the smallest positive double. -/
def leastExponent : Int := -1074

/-- The number of significands of one binade. -/
def significandRange : Nat := 4503599627370496

def ofBits (bits : UInt64) : Binary64 :=
  let word := bits.toNat
  let negative := 9223372036854775808 ≤ word
  let biased := word / significandRange % 2048
  let fraction := word % significandRange
  if biased = 2047 then
    if fraction = 0 then .infinite negative else .nan
  else if biased = 0 then
    .finite negative fraction leastExponent
  else
    .finite negative (significandRange + fraction) (biased - 1075)

def ofFloat (x : Float) : Binary64 := ofBits x.toBits

/-- The whole number nearest to `num / den`; a half goes to the even neighbour. -/
def divideToEven (num den : Nat) : Nat :=
  let quotient := num / den
  let rest := num % den
  if 2 * rest < den then quotient
  else if den < 2 * rest then quotient + 1
  else quotient + quotient % 2

/-- `num / den` scaled by `2 ^ (-shift)`, as numerator and denominator. -/
def scaleDown (num den : Nat) (shift : Int) : Nat × Nat :=
  if 0 ≤ shift then (num, den * Nat.pow 2 shift.toNat) else (num * Nat.pow 2 (-shift).toNat, den)

/-- The exponent at which `num / den` has a significand of 53 bits, or the least one. -/
def unitExponent (num den : Nat) : Int :=
  let guess : Int := (Nat.log2 num : Int) - (Nat.log2 den : Int) - 52
  let (scaled, unit) := scaleDown num den guess
  let exact := if scaled < unit * significandRange then guess - 1 else guess
  max exact leastExponent

/-- Bits of positive infinity. -/
def infinityBits : Nat := 2047 * significandRange

/-- Bits of the nonnegative double nearest to `num / den`; beyond the largest double, infinity. -/
def nearestBits (num den : Nat) : Nat :=
  if num = 0 then 0
  else
    let exponent := unitExponent num den
    let (scaled, unit) := scaleDown num den exponent
    let significand := divideToEven scaled unit
    min ((exponent - leastExponent).toNat * significandRange + significand) infinityBits

/-- The nonnegative double nearest to `coefficient · 10 ^ exponent`. -/
def ofDecimal (coefficient : Nat) (exponent : Int) : Float :=
  let bits :=
    if 0 ≤ exponent then nearestBits (coefficient * Nat.pow 10 exponent.toNat) 1
    else nearestBits coefficient (Nat.pow 10 (-exponent).toNat)
  Float.ofBits (UInt64.ofNat bits)

end Binary64

end SupplyRisk.Decimal
