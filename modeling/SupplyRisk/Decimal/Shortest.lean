import SupplyRisk.Decimal.Binary64
import SupplyRisk.Decimal.Numeral

/-!
# The shortest decimal that reads back

Every double is the rounding of an interval of reals.  Among the grids `10 ^ k · ℕ` the coarsest one with
a point in that interval is taken, and of its points there the one nearest to the double itself
(`shortest`).  A `Layout` says how those digits are written: which numbers are written without exponent
and whether a whole number keeps a `.0`.
-/

namespace SupplyRisk.Decimal

/-- The number `coefficient · 10 ^ exponent`. -/
structure Scientific where
  coefficient : Nat
  exponent : Int
deriving DecidableEq, Repr

/-- The reals that round to one double, as multiples of `unit = num / den`. -/
structure RoundingInterval where
  low : Nat
  middle : Nat
  high : Nat
  /-- Both ends round to the double. -/
  closed : Bool
  num : Nat
  den : Nat

namespace RoundingInterval

/-- The interval of `significand · 2 ^ exponent`, measured in quarters of the last place. -/
def ofBinary (significand : Nat) (exponent : Int) : RoundingInterval :=
  let lowGap :=
    if significand = Binary64.significandRange ∧ exponent ≠ Binary64.leastExponent then 1 else 2
  let shift := exponent - 2
  { low := 4 * significand - lowGap
    middle := 4 * significand
    high := 4 * significand + 2
    closed := significand % 2 = 0
    num := if 0 ≤ shift then Nat.pow 2 shift.toNat else 1
    den := if 0 ≤ shift then 1 else Nat.pow 2 (-shift).toNat }

/-- Whether `point / scale` lies in the interval. -/
def holds (i : RoundingInterval) (point scale : Nat) : Bool :=
  let p := point * i.den
  let low := i.low * i.num * scale
  let high := i.high * i.num * scale
  if i.closed then low ≤ p && p ≤ high else low < p && p < high

/-- The point of the grid of step `step / scale` that is in the interval and nearest to its middle. -/
def gridPoint? (i : RoundingInterval) (step scale : Nat) : Option Nat :=
  let target := i.middle * i.num * scale
  let unit := step * i.den
  let below := target / unit
  let above := below + 1
  match i.holds (below * step) scale, i.holds (above * step) scale with
  | true, true =>
      let shortfall := target - below * unit
      let excess := above * unit - target
      if shortfall < excess then some below
      else if excess < shortfall then some above
      else some (below + below % 2)
  | true, false => some below
  | false, true => some above
  | false, false => none

/-- The first grid `10 ^ k` with a point in the interval, for `k` going down from the given one. -/
def coarsest (i : RoundingInterval) : Nat → Int → Scientific
  | 0, k => ⟨0, k⟩
  | fuel + 1, k =>
      let found :=
        if 0 ≤ k then i.gridPoint? (Nat.pow 10 k.toNat) 1 else i.gridPoint? 1 (Nat.pow 10 (-k).toNat)
      match found with
      | some coefficient => ⟨coefficient, k⟩
      | none => i.coarsest fuel (k - 1)

end RoundingInterval

/-- A power of ten above every number of `bits` binary digits. -/
def powerAbove (bits : Int) : Int := bits * 30103 / 100000 + 2

/-- The shortest decimal that rounds to the double `significand · 2 ^ exponent`, which is positive. -/
def shortest (significand : Nat) (exponent : Int) : Scientific :=
  let start := powerAbove ((Nat.log2 significand : Int) + 1 + exponent)
  (RoundingInterval.ofBinary significand exponent).coarsest 800 start

/-- Drops the zeros at the end of a coefficient of at most `fuel` digits. -/
def Scientific.trim : Nat → Scientific → Scientific
  | 0, s => s
  | fuel + 1, s =>
      if s.coefficient ≠ 0 ∧ s.coefficient % 10 = 0 then
        Scientific.trim fuel ⟨s.coefficient / 10, s.exponent + 1⟩
      else s

/-- How the digits of a finite double are written. -/
structure Layout where
  /-- Least and greatest place of the decimal point, counted from the first digit, at which no
  exponent is written; without bounds there never is an exponent. -/
  positional : Option (Int × Int)
  /-- A whole number written without exponent ends in `.0`. -/
  pointZero : Bool
  /-- A positive exponent has a plus sign. -/
  plus : Bool
deriving DecidableEq, Repr

namespace Layout

/-- The numeral of digits whose decimal point stands `place` digits after the first one. -/
def positionalNumeral (l : Layout) (negative : Bool) (ds : List Digit) (place : Int) : Numeral :=
  let ds := if place ≤ 0 then List.replicate (1 - place).toNat 0 ++ ds else ds
  let place := if place ≤ 0 then 1 else place.toNat
  let ds := ds ++ List.replicate (place - ds.length) 0
  let fraction := ds.drop place
  { negative
    whole := ofDigits 0 (ds.take place)
    fraction := if fraction.isEmpty && l.pointZero then [0] else fraction
    exponent := none }

/-- The numeral with one digit in front of the point and an exponent. -/
def exponentNumeral (negative : Bool) (ds : List Digit) (place : Int) : Numeral :=
  { negative
    whole := ofDigits 0 (ds.take 1)
    fraction := ds.drop 1
    exponent := some (place - 1) }

/-- How a finite double is written. -/
def numeral (l : Layout) (negative : Bool) (significand : Nat) (exponent : Int) : Numeral :=
  if significand = 0 then
    ⟨negative, 0, if l.pointZero then [0] else [], none⟩
  else
    let s := (shortest significand exponent).trim 20
    let ds := digits s.coefficient
    let place := (ds.length : Int) + s.exponent
    match l.positional with
    | none => l.positionalNumeral negative ds place
    | some (least, greatest) =>
        if least ≤ place ∧ place ≤ greatest then l.positionalNumeral negative ds place
        else exponentNumeral negative ds place

/-- How a double is written, where it is finite. -/
def numeral? (l : Layout) (x : Float) : Option Numeral :=
  match Binary64.ofFloat x with
  | .finite negative significand exponent => some (l.numeral negative significand exponent)
  | _ => none

/-- A double as text; the special values are `NaN`, `inf` and `-inf`. -/
def text (l : Layout) (x : Float) : String :=
  match Binary64.ofFloat x with
  | .finite negative significand exponent =>
      String.ofList ((l.numeral negative significand exponent).text l.plus)
  | .infinite true => "-inf"
  | .infinite false => "inf"
  | .nan => "NaN"

/-- Numbers inside sentences: never an exponent, whole numbers without a point. -/
def sentence : Layout := ⟨none, false, false⟩

/-- Numbers of comma-separated exports: no exponent from 0.00001 up to below 10 ^ 16. -/
def exported : Layout := ⟨some (-4, 16), true, false⟩

/-- Numbers of data files: as in exports, with a plus sign on positive exponents. -/
def stored : Layout := ⟨some (-4, 16), true, true⟩

end Layout

end SupplyRisk.Decimal
