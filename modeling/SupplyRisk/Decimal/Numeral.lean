/-!
# Written numbers

A `Numeral` is a decimal number as it is written: sign, whole part, the digits after the point and the
exponent of ten.  Spellings with leading zeros in the whole part have no place in it, so its text is
unambiguous.  `Numeral.text` writes it.
-/

namespace SupplyRisk.Decimal

/-- A decimal digit. -/
abbrev Digit := Fin 10

def Digit.char (d : Digit) : Char := Char.ofNat ('0'.toNat + d.val)

/-- The digit a character stands for. -/
def digit? (c : Char) : Option Digit :=
  if h : '0'.toNat ≤ c.toNat ∧ c.toNat - '0'.toNat < 10 then some ⟨c.toNat - '0'.toNat, h.2⟩ else none

/-- The number that digits write, continuing `start`. -/
def ofDigits (start : Nat) (digits : List Digit) : Nat :=
  digits.foldl (fun n d => 10 * n + d.val) start

/-- The digits of `n` in front of `rest`, at most `fuel` of them. -/
def digitsOnto : Nat → Nat → List Digit → List Digit
  | 0, _, rest => rest
  | fuel + 1, n, rest =>
      let last : Digit := ⟨n % 10, Nat.mod_lt _ (by decide)⟩
      if n < 10 then last :: rest else digitsOnto fuel (n / 10) (last :: rest)

/-- The digits of `n`, without leading zeros; zero has one digit. -/
def digits (n : Nat) : List Digit := digitsOnto (Nat.log2 n + 1) n []

/-- A nonnegative whole number in decimal. -/
def natText (n : Nat) : List Char := (digits n).map Digit.char

/-- A whole number in decimal, with a minus sign if it is negative. -/
def intText (n : Int) : List Char :=
  if n < 0 then '-' :: natText n.natAbs else natText n.natAbs

structure Numeral where
  negative : Bool
  whole : Nat
  /-- The digits after the decimal point; no point is written when there are none. -/
  fraction : List Digit
  exponent : Option Int
deriving DecidableEq, Repr

namespace Numeral

def ofNat (n : Nat) : Numeral := ⟨false, n, [], none⟩

def ofInt (n : Int) : Numeral := ⟨n < 0, n.natAbs, [], none⟩

/-- A number written without point and exponent. -/
def isWhole (n : Numeral) : Bool := n.fraction.isEmpty && n.exponent.isNone

/-- The whole number that is written, if it has neither point nor exponent; `-0` is not whole. -/
def int? (n : Numeral) : Option Int :=
  if n.isWhole && !(n.negative && n.whole = 0) then
    some (if n.negative then -(n.whole : Int) else n.whole)
  else none

/-- Text of the exponent; `plus` asks for a sign also on a positive one. -/
def exponentText (plus : Bool) : Option Int → List Char
  | none => []
  | some e =>
      if e < 0 then 'e' :: '-' :: natText e.natAbs
      else if plus then 'e' :: '+' :: natText e.natAbs
      else 'e' :: natText e.natAbs

def fractionText : List Digit → List Char
  | [] => []
  | ds => '.' :: ds.map Digit.char

def text (n : Numeral) (plus : Bool) : List Char :=
  (if n.negative then ['-'] else []) ++ natText n.whole ++ fractionText n.fraction
    ++ exponentText plus n.exponent

end Numeral

end SupplyRisk.Decimal
