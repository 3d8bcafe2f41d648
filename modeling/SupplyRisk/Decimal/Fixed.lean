import SupplyRisk.Decimal.Binary64
import SupplyRisk.Decimal.Numeral

/-!
# A fixed number of decimal places

The exact value of a double, rounded to a number of places; a half goes to the even neighbour.
-/

namespace SupplyRisk.Decimal

/-- `significand · 2 ^ exponent · 10 ^ places`, rounded to a whole number. -/
def scaledToPlaces (places significand : Nat) (exponent : Int) : Nat :=
  let scaled := significand * Nat.pow 10 places
  if 0 ≤ exponent then scaled * Nat.pow 2 exponent.toNat
  else Binary64.divideToEven scaled (Nat.pow 2 (-exponent).toNat)

/-- `n` in decimal, filled up with zeros in front to at least `width` digits. -/
def paddedText (width n : Nat) : List Char :=
  let ds := natText n
  List.replicate (width - ds.length) '0' ++ ds

/-- A double with exactly `places` digits after the point, which is at least one. -/
def fixedText (places : Nat) (x : Float) : String :=
  match Binary64.ofFloat x with
  | .nan => "NaN"
  | .infinite true => "-inf"
  | .infinite false => "inf"
  | .finite negative significand exponent =>
      let units := scaledToPlaces places significand exponent
      let whole := natText (units / Nat.pow 10 places)
      let rest := paddedText places (units % Nat.pow 10 places)
      String.ofList ((if negative then ['-'] else []) ++ whole ++ '.' :: rest)

end SupplyRisk.Decimal
