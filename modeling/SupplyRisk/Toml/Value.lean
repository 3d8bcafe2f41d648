import SupplyRisk.Document

/-!
# TOML trees

The values of a TOML text.  A number beyond every integer of 128 bits or beyond the largest double is
`unreadable`: it may stand in a text, and only reading it fails.  Dates and times have no use here, so of
them only the text is kept.
-/

namespace SupplyRisk

inductive Toml where
  | string (value : String)
  | integer (value : Int)
  | float (value : Float)
  | boolean (value : Bool)
  | datetime (text : String)
  | array (items : List Toml)
  | table (members : List (String × Toml))
  | unreadable
deriving Inhabited

namespace Toml

/-- An integer, readable if it fits 128 bits with or without sign. -/
def ofInt (n : Int) : Toml :=
  if n < Word.count128 ∧ (0 ≤ n ∨ Word.holdsSigned Word.count128 n) then integer n else unreadable

mutual

/-- Whether no part of a value is unreadable. -/
def isReadable : Toml → Bool
  | unreadable => false
  | array items => areReadable items
  | table members => haveReadable members
  | _ => true

def areReadable : List Toml → Bool
  | [] => true
  | v :: vs => isReadable v && areReadable vs

def haveReadable : List (String × Toml) → Bool
  | [] => true
  | (_, v) :: ms => isReadable v && haveReadable ms

end

/-- The double of an integer of 64 bits, with or without sign. -/
def realOfInt? (n : Int) : Option Float :=
  if n < 0 ∧ Word.holdsSigned Word.count64 n then some (-(UInt64.ofNat n.natAbs).toFloat)
  else if 0 ≤ n ∧ n < Word.count64 then some (UInt64.ofNat n.toNat).toFloat
  else none

/-- A TOML record is a table, or an array that holds the values of the first fields; a date or time
stands for a record without fields.  Members with other names are skipped, but must be readable. -/
instance : Document Toml where
  fields? names
    | .table members =>
        let others := members.filter (fun m => !names.contains m.1)
        if haveReadable others then some (members.filter (fun m => names.contains m.1)) else none
    | .array items => some (names.zip items)
    | .datetime _ => some []
    | _ => none
  integer?
    | .integer n => some n
    | _ => none
  real?
    | .float x => some x
    | .integer n => realOfInt? n
    | _ => none
  flag?
    | .boolean b => some b
    | _ => none
  text?
    | .string s => some s
    | _ => none
  items?
    | .array items => some items
    | _ => none
  isNull _ := false
  choice?
    | .string s => some s
    | .table [(name, .table [])] => some name
    | .table [(name, .array [])] => some name
    | _ => none

end Toml

end SupplyRisk
