import SupplyRisk.Calendar.Date
import SupplyRisk.Text.Blank

/-!
# Reading dates

Year, month and day with hyphens between them.  White space may stand before each number and each hyphen;
a year with a sign may have any number of digits, one without a sign at most four.
-/

namespace SupplyRisk.Date

open Decimal Text

/-- At most `limit` digits at the front of a text. -/
def takeDigits : Nat → List Char → List Digit × List Char
  | 0, cs => ([], cs)
  | _, [] => ([], [])
  | limit + 1, c :: cs =>
      match digit? c with
      | some d => (d :: (takeDigits limit cs).1, (takeDigits limit cs).2)
      | none => ([], c :: cs)

/-- A number of one to `limit` digits. -/
def number? (limit : Nat) (cs : List Char) : Option (Nat × List Char) :=
  match takeDigits limit cs with
  | ([], _) => none
  | (ds, rest) => some (ofDigits 0 ds, rest)

/-- A year, after white space. -/
def year? (cs : List Char) : Option (Int × List Char) :=
  match skipBlanks cs with
  | '-' :: rest => (number? rest.length rest).map (fun found => (-(found.1 : Int), found.2))
  | '+' :: rest => (number? rest.length rest).map (fun found => ((found.1 : Int), found.2))
  | rest => (number? 4 rest).map (fun found => ((found.1 : Int), found.2))

/-- A number of one or two digits, after white space. -/
def pair? (cs : List Char) : Option (Nat × List Char) := number? 2 (skipBlanks cs)

/-- Drops a mark, after white space. -/
def mark? (c : Char) (cs : List Char) : Option (List Char) :=
  match skipBlanks cs with
  | first :: rest => if first = c then some rest else none
  | [] => none

/-- Year, month and day at the front of a text. -/
def civil? (cs : List Char) : Option (Civil × List Char) := do
  let (year, cs) ← year? cs
  let cs ← mark? '-' cs
  let (month, cs) ← pair? cs
  let cs ← mark? '-' cs
  let (day, cs) ← pair? cs
  some (⟨year, month, day⟩, cs)

/-- The date that a whole text writes. -/
def read? (text : String) : Option Date := do
  let (civil, rest) ← civil? text.toList
  if skipBlanks rest = [] then ofCivil? civil else none

end SupplyRisk.Date
