import SupplyRisk.Store.Basic

/-!
# Fixtures

Small stores described by a list of steps, with order dates counted in days before a reference day.  Orders
are promised fourteen days after ordering.  A fixture is inconsistent when it flags an unknown part, sets a
threshold of an unknown supplier or one out of range, or leaves the calendar.
-/

namespace SupplyRisk

inductive FixtureStep where
  | supplier (id : SupplierId) (name : String) (country : Option String)
  | inactiveSupplier (id : SupplierId) (name : String)
  | category (id : UInt64) (name : String)
  | part (id : PartId) (name : String) (category : Option UInt64)
  | lowStockThreshold (part : PartId) (threshold : UInt32)
  | supplies (supplier : SupplierId) (part : PartId)
  | stock (part : PartId) (quantity : Float)
  | openOrder (supplier : SupplierId) (part : PartId) (daysAgo : Int) (quantity unitPrice : Float)
  | delivery (supplier : SupplierId) (part : PartId) (daysAgo : Int) (quantity : Float) (late : Bool)
  | longLeadTime (part : PartId)
  | highValue (part : PartId)
  | alertThreshold (supplier : SupplierId) (threshold : Int)

/-- The flags that a fixture sets on a part. -/
structure FixtureFlags where
  part : PartId
  longLeadTime : Bool := false
  highValue : Bool := false

/-- The alert threshold that a fixture sets for a supplier. -/
structure FixtureThreshold where
  supplier : SupplierId
  threshold : Int

instance : Ranked FixtureFlags := ⟨fun f => f.part.value.toNat⟩
instance : Ranked FixtureThreshold := ⟨fun t => t.supplier.value.toNat⟩
instance : Ranked PartCategory := ⟨fun c => c.id.toNat⟩

structure Fixture where
  today : Date
  suppliers : List Supplier := []
  categories : Roster PartCategory := .empty
  parts : List (Part × Option UInt64) := []
  links : List SupplierPart := []
  orderLines : List OrderLine := []
  stockItems : List StockItem := []
  flags : Roster FixtureFlags := .empty
  thresholds : Roster FixtureThreshold := .empty

namespace Fixture

/-- A letter with a number of at least four digits. -/
def codeOf (letter : Char) (id : UInt64) : String :=
  String.ofList (letter :: Decimal.paddedText 4 id.toNat)

def supplierNamed (id : SupplierId) (name : String) (country : Option String) (active : Bool) :
    Supplier :=
  ⟨id, codeOf 'S' id.value, name, active, country.map (fun c => ⟨none, none, c⟩)⟩

def partNamed (id : PartId) (name : String) : Part := ⟨id, codeOf 'P' id.value, name, none, none⟩

/-- Sets the threshold of the first part with a number. -/
def setThreshold (id : PartId) (threshold : UInt32) :
    List (Part × Option UInt64) → List (Part × Option UInt64)
  | [] => []
  | (p, c) :: parts =>
      if p.id = id then ({ p with lowStockThreshold := some threshold }, c) :: parts
      else (p, c) :: setThreshold id threshold parts

def flagsOf (f : Fixture) (part : PartId) : FixtureFlags :=
  (f.flags.find? part.value.toNat).getD { part }

/-- Adds one step; nothing if a date leaves the calendar. -/
def add? (f : Fixture) : FixtureStep → Option Fixture
  | .supplier id name country =>
      some { f with suppliers := f.suppliers ++ [supplierNamed id name country true] }
  | .inactiveSupplier id name =>
      some { f with suppliers := f.suppliers ++ [supplierNamed id name none false] }
  | .category id name => some { f with categories := f.categories.insert ⟨id, name⟩ }
  | .part id name category => some { f with parts := f.parts ++ [(partNamed id name, category)] }
  | .lowStockThreshold part threshold =>
      some { f with parts := setThreshold part threshold f.parts }
  | .supplies supplier part => some { f with links := f.links ++ [⟨supplier, part⟩] }
  | .stock part quantity => some { f with stockItems := f.stockItems ++ [⟨part, quantity, true⟩] }
  | .openOrder supplier part daysAgo quantity unitPrice => do
      let ordered ← f.today.subDays? daysAgo
      let target ← ordered.addDays? 14
      some { f with orderLines := f.orderLines ++
        [⟨supplier, part, ordered, quantity, 0, unitPrice, some target, none⟩] }
  | .delivery supplier part daysAgo quantity late => do
      let ordered ← f.today.subDays? daysAgo
      let target ← ordered.addDays? 14
      let received ← target.addDays? (if late then 3 else -1)
      some { f with orderLines := f.orderLines ++
        [⟨supplier, part, ordered, quantity, quantity, 1, some target, some received⟩] }
  | .longLeadTime part =>
      some { f with flags := f.flags.insert { f.flagsOf part with longLeadTime := true } }
  | .highValue part =>
      some { f with flags := f.flags.insert { f.flagsOf part with highValue := true } }
  | .alertThreshold supplier threshold =>
      some { f with thresholds := f.thresholds.insert ⟨supplier, threshold⟩ }

/-- The category of a part; unknown numbers get a name made from the number. -/
def categoryOf (f : Fixture) (id : UInt64) : PartCategory :=
  (f.categories.find? id.toNat).getD ⟨id, "Category " ++ natString id.toNat⟩

def saveFlags (s : Store) (flags : FixtureFlags) : Except RiskError Store := do
  let (record, s) ← s.partRisk flags.part
  let (_, s) ← s.savePartRisk
    { record with longLeadTime := flags.longLeadTime, highValue := flags.highValue }
  .ok s

def saveThreshold (s : Store) (t : FixtureThreshold) : Except RiskError Store := do
  let (record, s) ← s.supplierRisk t.supplier standardAlertThreshold
  let record ← record.setAlertThreshold t.threshold
  let (_, s) ← s.saveSupplierRisk record
  .ok s

/-- The inventory of a fixture. -/
def inventory (f : Fixture) : Store :=
  let s := f.suppliers.foldl Store.addSupplier Store.empty
  let s := f.parts.foldl
    (fun s p => s.addPart { p.1 with category := p.2.map f.categoryOf }) s
  let s := f.links.foldl Store.link s
  let s := f.orderLines.foldl Store.addOrderLine s
  f.stockItems.foldl Store.addStockItem s

/-- The store of a fixture, or what is inconsistent in it. -/
def build (f : Fixture) : Except RiskError Store := do
  let s ← f.flags.rows.foldlM saveFlags f.inventory
  f.thresholds.rows.foldlM saveThreshold s

end Fixture

end SupplyRisk
