import SupplyRisk.Calendar.Date.Reader
import SupplyRisk.Entity
import SupplyRisk.Store.Roster

/-!
# Suppliers, parts, orders and stock

What the surrounding inventory holds, and the histories of one supplier or one part on which assessments
look.
-/

namespace SupplyRisk

structure Address where
  line1 : Option String
  postalCode : Option String
  /-- A code of two letters or the name of a country. -/
  country : String
deriving DecidableEq

structure Supplier where
  id : SupplierId
  code : String
  name : String
  active : Bool
  address : Option Address
deriving DecidableEq

structure PartCategory where
  id : UInt64
  name : String
deriving DecidableEq

structure Part where
  id : PartId
  code : String
  name : String
  category : Option PartCategory
  /-- The quantity below which the part is low on stock. -/
  lowStockThreshold : Option UInt32
deriving DecidableEq

/-- A supplier's offering of a part. -/
structure SupplierPart where
  supplier : SupplierId
  part : PartId
deriving DecidableEq

structure OrderLine where
  supplier : SupplierId
  part : PartId
  orderDate : Date
  quantity : Float
  received : Float
  unitPrice : Float
  /-- The promised day of delivery. -/
  targetDate : Option Date
  /-- The day on which delivery was complete. -/
  receivedDate : Option Date
deriving BEq

structure StockItem where
  part : PartId
  quantity : Float
  inStock : Bool
deriving BEq

instance : Ranked SupplierId := ⟨fun id => id.value.toNat⟩
instance : Ranked PartId := ⟨fun id => id.value.toNat⟩
instance : Ranked EntityRef := ⟨EntityRef.rank⟩
instance : Ranked Supplier := ⟨fun s => s.id.value.toNat⟩
instance : Ranked Part := ⟨fun p => p.id.value.toNat⟩

/-- Adds up from negative zero, the neutral element of addition, from left to right. -/
def sumFloats (xs : List Float) : Float := xs.foldl (· + ·) (-0.0)

namespace OrderLine

def isCompleted (l : OrderLine) : Bool := l.receivedDate.isSome

/-- Completed after the promised day; lines without a promise are never late. -/
def isLate (l : OrderLine) : Bool :=
  match l.receivedDate, l.targetDate with
  | some received, some target => decide (target < received)
  | _, _ => false

/-- The quantity still to come; nothing for completed lines. -/
def openQuantity (l : OrderLine) : Float :=
  if l.isCompleted then 0
  else
    let rest := l.quantity - l.received
    if 0 < rest then rest else 0

def openValue (l : OrderLine) : Float := l.openQuantity * l.unitPrice

def orderedOnOrAfter (l : OrderLine) (day : Date) : Bool := decide (day ≤ l.orderDate)

end OrderLine

/-- What the supplier scorers look at. -/
structure SupplierHistory where
  supplier : Supplier
  orderLines : List OrderLine
  partsSupplied : List PartId

/-- What the part scorers look at. -/
structure PartHistory where
  part : Part
  stockItems : List StockItem
  orderLines : List OrderLine
  /-- Active suppliers linked to the part. -/
  suppliers : List SupplierId
  /-- All suppliers linked to the part. -/
  linkedSuppliers : List SupplierId

namespace PartHistory

/-- Quantities of the items in stock. -/
def stockQuantities (h : PartHistory) : List Float :=
  (h.stockItems.filter (·.inStock)).map (·.quantity)

def onHand (h : PartHistory) : Float := sumFloats h.stockQuantities

/-- At most one active supplier. -/
def isSingleSource (h : PartHistory) : Bool := h.suppliers.length ≤ 1

def isBelowStockThreshold (h : PartHistory) : Bool :=
  match h.part.lowStockThreshold with
  | some threshold => decide (h.onHand < Float.ofNat threshold.toNat)
  | none => false

end PartHistory

end SupplyRisk
