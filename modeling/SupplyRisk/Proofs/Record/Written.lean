import SupplyRisk.Proofs.Calendar.Instant
import SupplyRisk.Proofs.Json.Fields
import SupplyRisk.Proofs.Roster
import SupplyRisk.Record.Alert
import SupplyRisk.Record.Event
import SupplyRisk.Record.PartRisk
import SupplyRisk.Record.Recommendation

/-!
# Reading back written records

Every record is read back from the JSON that it is written as, with all its fields, and nothing in that JSON is
unreadable.  Where a record holds floating-point numbers this is so if these survive: a number survives if it is read
back from the decimal that is written for it (`Json.Survives`).

The readers' bounds are numbers that must not be unfolded, so the steps of a reader are taken by rewriting
(`-implicitDefEqProofs`), not by computation; and they are taken from the first field to the last (`↓`), since from
inside out every field would double the work.
-/

namespace SupplyRisk

open Document (bind_record?_object)

/-- The number is read back from what is written for it; infinite numbers and what is no number are not. -/
def Json.Survives (x : Float) : Prop := Document.real? (Json.real x) = some x

instance (x : Float) : Decidable (Json.Survives x) :=
  inferInstanceAs (Decidable (Document.real? (Json.real x) = some x))

/-! ## Dates, levels and categories -/

@[simp] theorem Date.ofJson?_toJson (d : Date) : Date.ofJson? d.toJson = some d := by
  rw [Date.ofJson?, Date.toJson, Document.text?_string, Option.bind_some, Date.read?_text]

@[simp] theorem Date.isNull_toJson (d : Date) : Document.isNull d.toJson = false := Document.isNull_string _

@[simp] theorem Date.legible_toJson (d : Date) : d.toJson.legible = true := Json.legible_string _

@[simp] theorem Instant.ofJson?_toJson (i : Instant) : Instant.ofJson? i.toJson = some i := by
  rw [Instant.ofJson?, Instant.toJson, Document.text?_string, Option.bind_some, Instant.read?_text]

@[simp] theorem Instant.isNull_toJson (i : Instant) : Document.isNull i.toJson = false := Document.isNull_string _

@[simp] theorem Instant.legible_toJson (i : Instant) : i.toJson.legible = true := Json.legible_string _

@[simp] theorem Level.read?_toJson (l : Level) : Level.read? l.toJson = some l := by cases l <;> rfl

@[simp] theorem Level.legible_toJson (l : Level) : l.toJson.legible = true := Json.legible_string _

@[simp] theorem Category.read?_toJson (c : Category) : Category.read? c.toJson = some c := by cases c <;> rfl

@[simp] theorem Category.legible_toJson (c : Category) : c.toJson.legible = true := Json.legible_string _

/-! ## Inventory -/

@[simp] theorem Address.read?_toJson (a : Address) : Address.read? a.toJson = some a := by
  rw [Address.read?, Address.toJson, bind_record?_object (by rfl) (by decide)]
  simp -implicitDefEqProofs [↓Option.bind_eq_bind]

@[simp] theorem Address.isNull_toJson (a : Address) : Document.isNull a.toJson = false := Document.isNull_object _

@[simp] theorem Address.legible_toJson (a : Address) : a.toJson.legible = true := by simp [Address.toJson]

@[simp] theorem Supplier.read?_toJson (s : Supplier) : Supplier.read? s.toJson = some s := by
  rw [Supplier.read?, Supplier.toJson, bind_record?_object (by rfl) (by decide)]
  simp -implicitDefEqProofs [↓Option.bind_eq_bind]

@[simp] theorem Supplier.legible_toJson (s : Supplier) : s.toJson.legible = true := by simp [Supplier.toJson]

@[simp] theorem PartCategory.read?_toJson (c : PartCategory) : PartCategory.read? c.toJson = some c := by
  rw [PartCategory.read?, PartCategory.toJson, bind_record?_object (by rfl) (by decide)]
  simp -implicitDefEqProofs [↓Option.bind_eq_bind]

@[simp] theorem PartCategory.isNull_toJson (c : PartCategory) : Document.isNull c.toJson = false :=
  Document.isNull_object _

@[simp] theorem PartCategory.legible_toJson (c : PartCategory) : c.toJson.legible = true := by
  simp [PartCategory.toJson]

@[simp] theorem Part.read?_toJson (p : Part) : Part.read? p.toJson = some p := by
  rw [Part.read?, Part.toJson, bind_record?_object (by rfl) (by decide)]
  simp -implicitDefEqProofs [↓Option.bind_eq_bind]

@[simp] theorem Part.legible_toJson (p : Part) : p.toJson.legible = true := by simp [Part.toJson]

@[simp] theorem SupplierPart.read?_toJson (l : SupplierPart) : SupplierPart.read? l.toJson = some l := by
  rw [SupplierPart.read?, SupplierPart.toJson, bind_record?_object (by rfl) (by decide)]
  simp -implicitDefEqProofs [↓Option.bind_eq_bind]

@[simp] theorem SupplierPart.legible_toJson (l : SupplierPart) : l.toJson.legible = true := by
  simp [SupplierPart.toJson]

/-- The numbers of an order line survive. -/
structure OrderLine.Survives (l : OrderLine) : Prop where
  quantity : Json.Survives l.quantity
  received : Json.Survives l.received
  unitPrice : Json.Survives l.unitPrice

instance (l : OrderLine) : Decidable l.Survives :=
  decidable_of_iff (Json.Survives l.quantity ∧ Json.Survives l.received ∧ Json.Survives l.unitPrice)
    ⟨fun ⟨h, h', h''⟩ => ⟨h, h', h''⟩, fun ⟨h, h', h''⟩ => ⟨h, h', h''⟩⟩

theorem OrderLine.read?_toJson {l : OrderLine} (h : l.Survives) :
    OrderLine.read? (l.toJson Json.real) = some l := by
  obtain ⟨hquantity, hreceived, hprice⟩ := h
  rw [Json.Survives] at hquantity hreceived hprice
  rw [OrderLine.read?, OrderLine.toJson, bind_record?_object (by rfl) (by decide)]
  simp -implicitDefEqProofs [↓Option.bind_eq_bind, hquantity, hreceived, hprice]

@[simp] theorem OrderLine.legible_toJson (l : OrderLine) : (l.toJson Json.real).legible = true := by
  simp [OrderLine.toJson]

theorem StockItem.read?_toJson {i : StockItem} (h : Json.Survives i.quantity) :
    StockItem.read? (i.toJson Json.real) = some i := by
  rw [Json.Survives] at h
  rw [StockItem.read?, StockItem.toJson, bind_record?_object (by rfl) (by decide)]
  simp -implicitDefEqProofs [↓Option.bind_eq_bind, h]

@[simp] theorem StockItem.legible_toJson (i : StockItem) : (i.toJson Json.real).legible = true := by
  simp [StockItem.toJson]

/-! ## Risk records -/

theorem SupplierRisk.read?_toJson {r : SupplierRisk} (h : Json.Survives r.overall) :
    SupplierRisk.read? (r.toJson Json.real) = some r := by
  rw [Json.Survives] at h
  rw [SupplierRisk.read?, SupplierRisk.toJson, bind_record?_object (by rfl) (by decide)]
  simp -implicitDefEqProofs [↓Option.bind_eq_bind, h]

@[simp] theorem SupplierRisk.legible_toJson (r : SupplierRisk) : (r.toJson Json.real).legible = true := by
  simp [SupplierRisk.toJson]

@[simp] theorem PartRisk.read?_toJson (r : PartRisk) : PartRisk.read? r.toJson = some r := by
  rw [PartRisk.read?, PartRisk.toJson, bind_record?_object (by rfl) (by decide)]
  simp -implicitDefEqProofs [↓Option.bind_eq_bind]

@[simp] theorem PartRisk.legible_toJson (r : PartRisk) : r.toJson.legible = true := by simp [PartRisk.toJson]

/-! ## Alerts, recommendations and events -/

@[simp] theorem Alert.read?_toJson (a : Alert) : Alert.read? a.toJson = some a := by
  rw [Alert.read?, Alert.toJson, bind_record?_object (by rfl) (by decide)]
  simp -implicitDefEqProofs [↓Option.bind_eq_bind]

@[simp] theorem Alert.legible_toJson (a : Alert) : a.toJson.legible = true := by simp [Alert.toJson]

@[simp] theorem Recommendation.read?_toJson (r : Recommendation) : Recommendation.read? r.toJson = some r := by
  rw [Recommendation.read?, Recommendation.toJson, bind_record?_object (by rfl) (by decide)]
  simp -implicitDefEqProofs [↓Option.bind_eq_bind]

@[simp] theorem Recommendation.legible_toJson (r : Recommendation) : r.toJson.legible = true := by
  simp [Recommendation.toJson]

@[simp] theorem RiskEvent.read?_toJson (e : RiskEvent) : RiskEvent.read? e.toJson = some e := by
  rw [RiskEvent.read?, RiskEvent.toJson, bind_record?_object (by rfl) (by decide)]
  simp -implicitDefEqProofs [↓Option.bind_eq_bind]

@[simp] theorem RiskEvent.legible_toJson (e : RiskEvent) : e.toJson.legible = true := by simp [RiskEvent.toJson]

end SupplyRisk
