import SupplyRisk.Inventory

/-!
# Inventory in JSON

How the records of the inventory are read and written.  `real` says how a float is written.
-/

namespace SupplyRisk

open Document (record? text? real? flag? uint32? uint64? list?)

/-- A date in quotes. -/
def Date.toJson (d : Date) : Json := .string d.text

def Date.ofJson? (j : Json) : Option Date := (text? j).bind Date.read?

namespace Address

def read? (j : Json) : Option Address := do
  let f ← record? ["line1", "postal_code", "country"] j
  some {
    line1 := ← f.optional "line1" text?
    postalCode := ← f.optional "postal_code" text?
    country := ← f.required "country" text? }

def toJson (a : Address) : Json :=
  .object [("line1", .ofOption .string a.line1), ("postal_code", .ofOption .string a.postalCode),
    ("country", .string a.country)]

end Address

namespace Supplier

def read? (j : Json) : Option Supplier := do
  let f ← record? ["id", "code", "name", "active", "address"] j
  some {
    id := ← f.required "id" SupplierId.read?
    code := ← f.required "code" text?
    name := ← f.required "name" text?
    active := ← f.withDefault "active" flag? true
    address := ← f.optional "address" Address.read? }

def toJson (s : Supplier) : Json :=
  .object [("id", idJson s.id.value), ("code", .string s.code), ("name", .string s.name),
    ("active", .bool s.active), ("address", .ofOption Address.toJson s.address)]

end Supplier

namespace PartCategory

def read? (j : Json) : Option PartCategory := do
  let f ← record? ["id", "name"] j
  some { id := ← f.required "id" uint64?, name := ← f.required "name" text? }

def toJson (c : PartCategory) : Json := .object [("id", idJson c.id), ("name", .string c.name)]

end PartCategory

namespace Part

def read? (j : Json) : Option Part := do
  let f ← record? ["id", "code", "name", "category", "low_stock_threshold"] j
  some {
    id := ← f.required "id" PartId.read?
    code := ← f.required "code" text?
    name := ← f.required "name" text?
    category := ← f.optional "category" PartCategory.read?
    lowStockThreshold := ← f.optional "low_stock_threshold" uint32? }

def toJson (p : Part) : Json :=
  .object [("id", idJson p.id.value), ("code", .string p.code), ("name", .string p.name),
    ("category", .ofOption PartCategory.toJson p.category),
    ("low_stock_threshold", .ofOption (fun n => .nat n.toNat) p.lowStockThreshold)]

end Part

namespace SupplierPart

def read? (j : Json) : Option SupplierPart := do
  let f ← record? ["supplier", "part"] j
  some { supplier := ← f.required "supplier" SupplierId.read?, part := ← f.required "part" PartId.read? }

def toJson (l : SupplierPart) : Json :=
  .object [("supplier", idJson l.supplier.value), ("part", idJson l.part.value)]

end SupplierPart

namespace OrderLine

def read? (j : Json) : Option OrderLine := do
  let f ← record? ["supplier", "part", "order_date", "quantity", "received", "unit_price",
    "target_date", "received_date"] j
  some {
    supplier := ← f.required "supplier" SupplierId.read?
    part := ← f.required "part" PartId.read?
    orderDate := ← f.required "order_date" Date.ofJson?
    quantity := ← f.required "quantity" real?
    received := ← f.withDefault "received" real? 0
    unitPrice := ← f.withDefault "unit_price" real? 0
    targetDate := ← f.optional "target_date" Date.ofJson?
    receivedDate := ← f.optional "received_date" Date.ofJson? }

def toJson (real : Float → Json) (l : OrderLine) : Json :=
  .object [("supplier", idJson l.supplier.value), ("part", idJson l.part.value),
    ("order_date", l.orderDate.toJson), ("quantity", real l.quantity), ("received", real l.received),
    ("unit_price", real l.unitPrice), ("target_date", .ofOption Date.toJson l.targetDate),
    ("received_date", .ofOption Date.toJson l.receivedDate)]

end OrderLine

namespace StockItem

def read? (j : Json) : Option StockItem := do
  let f ← record? ["part", "quantity", "in_stock"] j
  some {
    part := ← f.required "part" PartId.read?
    quantity := ← f.required "quantity" real?
    inStock := ← f.withDefault "in_stock" flag? true }

def toJson (real : Float → Json) (i : StockItem) : Json :=
  .object [("part", idJson i.part.value), ("quantity", real i.quantity), ("in_stock", .bool i.inStock)]

end StockItem

namespace SupplierHistory

/-- A history; orders and parts may be missing. -/
def read? (j : Json) : Option SupplierHistory := do
  let f ← record? ["supplier", "order_lines", "parts_supplied"] j
  some {
    supplier := ← f.required "supplier" Supplier.read?
    orderLines := ← f.withDefault "order_lines" (list? OrderLine.read?) []
    partsSupplied := ← f.withDefault "parts_supplied" (list? PartId.read?) [] }

def toJson (real : Float → Json) (h : SupplierHistory) : Json :=
  .object [("supplier", h.supplier.toJson),
    ("order_lines", .ofList (OrderLine.toJson real) h.orderLines),
    ("parts_supplied", .ofList (fun p => idJson p.value) h.partsSupplied)]

end SupplierHistory

namespace PartHistory

/-- A history; everything but the part may be missing. -/
def read? (j : Json) : Option PartHistory := do
  let f ← record? ["part", "stock_items", "order_lines", "suppliers", "linked_suppliers"] j
  some {
    part := ← f.required "part" Part.read?
    stockItems := ← f.withDefault "stock_items" (list? StockItem.read?) []
    orderLines := ← f.withDefault "order_lines" (list? OrderLine.read?) []
    suppliers := ← f.withDefault "suppliers" (list? SupplierId.read?) []
    linkedSuppliers := ← f.withDefault "linked_suppliers" (list? SupplierId.read?) [] }

/-- A history with what follows from its stock and suppliers. -/
def toJson (real : Float → Json) (h : PartHistory) : Json :=
  .object [("part", h.part.toJson), ("stock_items", .ofList (StockItem.toJson real) h.stockItems),
    ("order_lines", .ofList (OrderLine.toJson real) h.orderLines),
    ("suppliers", .ofList (fun s => idJson s.value) h.suppliers),
    ("linked_suppliers", .ofList (fun s => idJson s.value) h.linkedSuppliers),
    ("on_hand", real h.onHand), ("single_source", .bool h.isSingleSource),
    ("below_threshold", .bool h.isBelowStockThreshold)]

end PartHistory

end SupplyRisk
