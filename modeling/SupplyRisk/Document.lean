import SupplyRisk.Json.Value

/-!
# Trees that records are read from

Records are read from JSON and from TOML alike, so reading is written against `Document`: what a tree may be
taken for.  A record stands either as named members or as its field values in order.  A `Fields` value
holds what was found for the known names of one record.
-/

namespace SupplyRisk

/-- What a tree of values can be taken for. -/
class Document (V : Type) where
  /-- The values of a record's fields, given their names in order.  A known name may occur once. -/
  fields? : List String → V → Option (List (String × V))
  integer? : V → Option Int
  real? : V → Option Float
  flag? : V → Option Bool
  text? : V → Option String
  items? : V → Option (List V)
  isNull : V → Bool
  /-- The name of a choice without arguments. -/
  choice? : V → Option String

/-- The values found for a record's fields. -/
structure Fields (V : Type) where
  found : List (String × V)

namespace Fields

variable {V α : Type}

def find? (f : Fields V) (name : String) : Option V := f.found.lookup name

/-- A field that must be there. -/
def required (f : Fields V) (name : String) (read : V → Option α) : Option α :=
  (f.find? name).bind read

/-- A field that takes a default where it is absent. -/
def withDefault (f : Fields V) (name : String) (read : V → Option α) (default : α) : Option α :=
  match f.find? name with
  | some v => read v
  | none => some default

/-- A field that may be absent or null. -/
def optional [Document V] (f : Fields V) (name : String) (read : V → Option α) :
    Option (Option α) :=
  match f.find? name with
  | some v => if Document.isNull v then some none else (read v).map some
  | none => some none

end Fields

namespace Document

variable {V α : Type} [Document V]

/-- The fields of a record with the given field names. -/
def record? (names : List String) (v : V) : Option (Fields V) := (fields? names v).map Fields.mk

/-- A nonnegative integer below `limit`. -/
def below? (limit : Nat) (v : V) : Option Nat :=
  (integer? v).bind (fun n => if 0 ≤ n ∧ n < limit then some n.toNat else none)

def uint8? (v : V) : Option UInt8 := (below? Word.count8 v).map UInt8.ofNat

def uint32? (v : V) : Option UInt32 := (below? Word.count32 v).map UInt32.ofNat

def uint64? (v : V) : Option UInt64 := (below? Word.count64 v).map UInt64.ofNat

/-- An integer of 64 bits with sign. -/
def int64? (v : V) : Option Int :=
  (integer? v).bind (fun n => if Word.holdsSigned Word.count64 n then some n else none)

def list? (read : V → Option α) (v : V) : Option (List α) :=
  (items? v).bind (fun items => items.mapM read)

/-- A choice among named values. -/
def choiceOf? (named : String → Option α) (v : V) : Option α := (choice? v).bind named

/-- A value or null. -/
def orNull? (read : V → Option α) (v : V) : Option (Option α) :=
  if isNull v then some none else (read v).map some

end Document

namespace Json

/-- The members with known names, unless one of those occurs twice. -/
def knownMembers? (names : List String) (members : List (String × Json)) :
    Option (List (String × Json)) :=
  let known := members.filter (fun m => names.contains m.1)
  if (known.map (·.1)).Nodup then some known else none

/-- A JSON record is an object, or an array that holds the values of the first fields. -/
instance : Document Json where
  fields? names
    | .object members => knownMembers? names members
    | .array items => if items.length ≤ names.length then some (names.zip items) else none
    | _ => none
  integer?
    | .number n => n.int?
    | _ => none
  real?
    | .number n => ofNumeral? n
    | _ => none
  flag?
    | .bool b => some b
    | _ => none
  text?
    | .string s => some s
    | _ => none
  items?
    | .array items => some items
    | _ => none
  isNull
    | .null => true
    | _ => false
  choice?
    | .string s => some s
    | .object [(name, .null)] => some name
    | _ => none

end Json

end SupplyRisk
