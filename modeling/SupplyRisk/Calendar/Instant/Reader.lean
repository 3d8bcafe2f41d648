import SupplyRisk.Calendar.Date.Reader
import SupplyRisk.Calendar.Instant

/-!
# Reading instants

A date, a `T` or a blank, a time of day with seconds and an offset from universal time.  The instant is
converted to universal time.  Second 60 is the second before it with a billion nanoseconds more.
-/

namespace SupplyRisk.Instant

open Decimal Text Date

/-- The separator of date and time. -/
def separator? : List Char → Option (List Char)
  | c :: cs => if c = 'T' ∨ c = 't' ∨ c = ' ' then some cs else none
  | [] => none

/-- Nanoseconds after a point; digits beyond the ninth are dropped. -/
def fraction? : List Char → Option (Nat × List Char)
  | '.' :: cs =>
      match takeDigits 9 cs with
      | ([], _) => none
      | (ds, rest) => some (ofDigits 0 ds * Nat.pow 10 (9 - ds.length), (takeDigits rest.length rest).2)
  | cs => some (0, cs)

/-- Drops colons and white space. -/
def skipColons : List Char → List Char
  | [] => []
  | c :: cs => if c = ':' ∨ isBlank c then skipColons cs else c :: cs

/-- Hours and minutes of an offset, in seconds. -/
def offsetMagnitude? (cs : List Char) : Option (Nat × List Char) := do
  let (hours, cs) ← match takeDigits 2 cs with
    | ([a, b], rest) => some (ofDigits 0 [a, b], rest)
    | _ => none
  let (minutes, cs) ← match takeDigits 2 (skipColons cs) with
    | ([a, b], rest) => some (ofDigits 0 [a, b], rest)
    | _ => none
  if minutes < 60 ∧ hours < 24 then some (hours * 3600 + minutes * 60, cs) else none

/-- An offset from universal time, in seconds. -/
def offset? : List Char → Option (Int × List Char)
  | a :: b :: c :: cs =>
      if [a, b, c].map lowerAscii = ['u', 't', 'c'] then some (0, cs) else signed? (a :: b :: c :: cs)
  | cs => signed? cs
where
  /-- `Z`, or a sign with hours and minutes. -/
  signed? : List Char → Option (Int × List Char)
    | c :: cs =>
        if c = 'Z' ∨ c = 'z' then some (0, cs)
        else if c = '+' then (offsetMagnitude? cs).map (fun found => ((found.1 : Int), found.2))
        else if c = '-' ∨ c.toNat = 0x2212 then
          (offsetMagnitude? cs).map (fun found => (-(found.1 : Int), found.2))
        else none
    | [] => none

/-- The instant that a whole text writes. -/
def read? (text : String) : Option Instant := do
  let (civil, cs) ← civil? text.toList
  let cs ← separator? cs
  let (hour, cs) ← pair? cs
  let cs ← mark? ':' cs
  let (minute, cs) ← pair? cs
  let cs ← mark? ':' cs
  let (second, cs) ← pair? cs
  let (nanos, cs) ← fraction? cs
  let (offset, cs) ← offset? (skipBlanks cs)
  if skipBlanks cs ≠ [] ∨ 24 ≤ hour ∨ 60 ≤ minute ∨ 61 ≤ second then none
  else do
    let date ← ofCivil? civil
    let leap : Nat := if second = 60 then 1 else 0
    let ofDay : Nat := hour * 3600 + minute * 60 + (second - leap)
    ofParts? (date.number * 86400 + ofDay - offset) (nanos + leap * billion)

end SupplyRisk.Instant
