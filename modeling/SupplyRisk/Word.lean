/-!
# Words

How many values words of different lengths have.  Numbers in texts are held to the range of the word that is to
hold them, before they become words.  Products that do not fit a word stop at the greatest word.
-/

namespace SupplyRisk.Word

/-- Two to the power 8. -/
abbrev count8 : Nat := 256

/-- Two to the power 32. -/
abbrev count32 : Nat := 4294967296

/-- Two to the power 64. -/
abbrev count64 : Nat := 18446744073709551616

/-- Two to the power 128. -/
abbrev count128 : Nat := 340282366920938463463374607431768211456

/-- Whether a word of so many values, half of them negative, holds an integer. -/
def holdsSigned (count : Nat) (n : Int) : Bool := -(count / 2 : Nat) ≤ n && n < (count / 2 : Nat)

/-- The greatest word of 64 bits. -/
def greatest64 : UInt64 := 18446744073709551615

/-- Whether there is a next word. -/
def hasNext (a : UInt64) : Bool := a.toNat + 1 < count64

/-- The product of two words, or the greatest word where it does not fit one. -/
def saturatingMul (a b : UInt64) : UInt64 :=
  if a.toNat * b.toNat < count64 then a * b else greatest64

/-- A word moved to the left, unless by as many places as it has or more. -/
def shiftLeft? (a : UInt64) (places : UInt32) : Option UInt64 :=
  if places < 64 then some (a <<< places.toUInt64) else none

end SupplyRisk.Word
