import SupplyRisk.Decimal.Numeral
import SupplyRisk.Document

/-!
# Identities

Suppliers, parts, alerts, recommendations and events are known by numbers of 64 bits.  An `EntityRef` names a
supplier or a part, the two things that carry risk; suppliers order before parts.
-/

namespace SupplyRisk

/-- A number in decimal, as it stands in sentences. -/
def natString (n : Nat) : String := String.ofList (Decimal.natText n)

structure SupplierId where
  value : UInt64
deriving DecidableEq

structure PartId where
  value : UInt64
deriving DecidableEq

structure AlertId where
  value : UInt64
deriving DecidableEq

structure RecommendationId where
  value : UInt64
deriving DecidableEq

structure EventId where
  value : UInt64
deriving DecidableEq

/-- A kind of record with its number. -/
def tagged (kind : String) (id : UInt64) : String := kind ++ "#" ++ natString id.toNat

def SupplierId.text (id : SupplierId) : String := tagged "supplier" id.value
def PartId.text (id : PartId) : String := tagged "part" id.value
def AlertId.text (id : AlertId) : String := tagged "alert" id.value
def RecommendationId.text (id : RecommendationId) : String := tagged "recommendation" id.value
def EventId.text (id : EventId) : String := tagged "event" id.value

def idJson (id : UInt64) : Json := .nat id.toNat

section Reading

variable {V : Type} [Document V]

def SupplierId.read? (v : V) : Option SupplierId := (Document.uint64? v).map SupplierId.mk
def PartId.read? (v : V) : Option PartId := (Document.uint64? v).map PartId.mk
def AlertId.read? (v : V) : Option AlertId := (Document.uint64? v).map AlertId.mk
def RecommendationId.read? (v : V) : Option RecommendationId :=
  (Document.uint64? v).map RecommendationId.mk
def EventId.read? (v : V) : Option EventId := (Document.uint64? v).map EventId.mk

end Reading

/-- The two kinds of things that carry risk. -/
inductive EntityKind where
  | supplier
  | part
deriving DecidableEq

namespace EntityKind

def text : EntityKind → String
  | supplier => "supplier"
  | part => "part"

def ofText? : String → Option EntityKind
  | "supplier" => some supplier
  | "part" => some part
  | _ => none

end EntityKind

/-- A supplier or a part. -/
inductive EntityRef where
  | supplier (id : SupplierId)
  | part (id : PartId)
deriving DecidableEq

namespace EntityRef

def ofKind : EntityKind → UInt64 → EntityRef
  | .supplier, id => .supplier ⟨id⟩
  | .part, id => .part ⟨id⟩

def kind : EntityRef → EntityKind
  | supplier _ => .supplier
  | part _ => .part

def id : EntityRef → UInt64
  | supplier id => id.value
  | part id => id.value

def text : EntityRef → String
  | supplier id => id.text
  | part id => id.text

/-- The place in the order of entities: suppliers by id, then parts by id. -/
def rank : EntityRef → Nat
  | supplier id => id.value.toNat
  | part id => Word.count64 + id.value.toNat

def toJson (e : EntityRef) : Json :=
  .object [("kind", .string e.kind.text), ("id", idJson e.id)]

/-- An entity stands as an object with kind and id, or as an array of both. -/
def read? : Json → Option EntityRef
  | .object members => do
      let known ← Json.knownMembers? ["kind", "id"] members
      ofParts? (← known.lookup "kind") (← known.lookup "id")
  | .array [kind, id] => ofParts? kind id
  | _ => none
where
  /-- The entity of a kind and an id. -/
  ofParts? (kind id : Json) : Option EntityRef := do
    let kind ← (Document.text? kind).bind EntityKind.ofText?
    let id ← Document.uint64? id
    some (ofKind kind id)

end EntityRef

end SupplyRisk
