import SupplyRisk.Proofs.Record.Written
import SupplyRisk.Store.Snapshot

/-!
# The contents of data files

A store whose numbers survive is read back from the contents of its data file (`Store.ofDataText?_dataText`).  A
loaded store holds what the file lists (`Store.HoldsListed`): of the entries with one number the last, and the plain lists
in their order.
-/

namespace SupplyRisk

/-- The floating-point numbers of a snapshot survive. -/
structure Snapshot.Survives (s : Snapshot) : Prop where
  orderLines : ∀ l ∈ s.orderLines, l.Survives
  stockItems : ∀ i ∈ s.stockItems, Json.Survives i.quantity
  supplierRisks : ∀ r ∈ s.supplierRisks, Json.Survives r.overall

instance (s : Snapshot) : Decidable s.Survives :=
  decidable_of_iff ((∀ l ∈ s.orderLines, l.Survives) ∧ (∀ i ∈ s.stockItems, Json.Survives i.quantity) ∧
      ∀ r ∈ s.supplierRisks, Json.Survives r.overall)
    ⟨fun ⟨h, h', h''⟩ => ⟨h, h', h''⟩, fun ⟨h, h', h''⟩ => ⟨h, h', h''⟩⟩

def Store.Survives (s : Store) : Prop := s.snapshot.Survives

instance (s : Store) : Decidable s.Survives := inferInstanceAs (Decidable s.snapshot.Survives)

namespace Snapshot

@[simp] theorem section?_cons_self {α : Type} {name : String} {j : Json} {members : List (String × Json)}
    {read : Json → Option α} : section? ⟨(name, j) :: members⟩ name read = Document.list? read j :=
  Fields.withDefault_cons_self

@[simp] theorem section?_cons_of_ne {α : Type} {name other : String} {j : Json} {members : List (String × Json)}
    {read : Json → Option α} (h : name ≠ other) : Snapshot.section? ⟨(other, j) :: members⟩ name read =
      Snapshot.section? ⟨members⟩ name read :=
  Fields.withDefault_cons_of_ne h

theorem read?_toJson {s : Snapshot} (h : s.Survives) : read? (s.toJson Json.real) = some s := by
  have horderLines : ∀ l ∈ s.orderLines, OrderLine.read? (l.toJson Json.real) = some l :=
    fun l hl => OrderLine.read?_toJson (h.orderLines l hl)
  have hstockItems : ∀ i ∈ s.stockItems, StockItem.read? (i.toJson Json.real) = some i :=
    fun i hi => StockItem.read?_toJson (h.stockItems i hi)
  have hsupplierRisks : ∀ r ∈ s.supplierRisks, SupplierRisk.read? (r.toJson Json.real) = some r :=
    fun r hr => SupplierRisk.read?_toJson (h.supplierRisks r hr)
  rw [read?, toJson, Document.bind_record?_object (by rfl) (by decide)]
  simp -implicitDefEqProofs [↓Option.bind_eq_bind, Document.list?_ofList horderLines, Document.list?_ofList hstockItems,
    Document.list?_ofList hsupplierRisks]

theorem legible_toJson (s : Snapshot) : (s.toJson Json.real).legible = true := by simp [toJson]

/-- A snapshot is read back from its text, with a line end behind it. -/
theorem parse?_render {s : Snapshot} (h : s.Survives) : parse? (s.render ++ "\n") = some s := by
  rw [parse?, render, Json.read?_pretty s.legible_toJson, Option.bind_some, read?_toJson h]

end Snapshot

namespace Store

theorem ofSnapshot_snapshot (s : Store) : ofSnapshot s.snapshot = s := by
  simp [ofSnapshot, snapshot]

/-- **A store is read back from its data file.** -/
theorem ofDataText?_dataText {s : Store} (h : s.Survives) : ofDataText? s.dataText = some s := by
  rw [ofDataText?, dataText, Snapshot.parse?_render h, Option.map_some, ofSnapshot_snapshot]

/-- The store holds what is listed: the last entry of each number, and the plain lists as they are. -/
structure HoldsListed (s : Store) (listed : Snapshot) : Prop where
  suppliers : ∀ n, s.suppliers.find? n = listed.suppliers.reverse.find? (fun a => Ranked.rank a == n)
  parts : ∀ n, s.parts.find? n = listed.parts.reverse.find? (fun a => Ranked.rank a == n)
  links : s.links = listed.links
  orderLines : s.orderLines = listed.orderLines
  stockItems : s.stockItems = listed.stockItems
  supplierRisks : ∀ n, s.supplierRisks.find? n = listed.supplierRisks.reverse.find? (fun a => Ranked.rank a == n)
  partRisks : ∀ n, s.partRisks.find? n = listed.partRisks.reverse.find? (fun a => Ranked.rank a == n)
  alerts : ∀ n, s.alerts.find? n = listed.alerts.reverse.find? (fun a => Ranked.rank a == n)
  recommendations :
    ∀ n, s.recommendations.find? n = listed.recommendations.reverse.find? (fun a => Ranked.rank a == n)
  events : ∀ n, s.events.find? n = listed.events.reverse.find? (fun a => Ranked.rank a == n)

theorem holdsListed_ofSnapshot (listed : Snapshot) : (ofSnapshot listed).HoldsListed listed where
  suppliers := Roster.find?_ofList _
  parts := Roster.find?_ofList _
  links := rfl
  orderLines := rfl
  stockItems := rfl
  supplierRisks := Roster.find?_ofList _
  partRisks := Roster.find?_ofList _
  alerts := Roster.find?_ofList _
  recommendations := Roster.find?_ofList _
  events := Roster.find?_ofList _

end Store

end SupplyRisk
