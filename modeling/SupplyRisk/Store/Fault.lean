import SupplyRisk.Store.Call
import SupplyRisk.Text.Quoted

/-!
# A store that fails on purpose

A `FaultyStore` is a store with faults to come.  Missing entities cannot be read, transient faults make one
read of a history fail, conflicts let another writer save first, and listing entities or logging one event can
fail.  One-shot faults are used up when they strike.  Without faults it behaves as the store in it.
-/

namespace SupplyRisk

structure Faults where
  missing : Roster EntityRef := .empty
  /-- Entities whose next history read fails. -/
  transientOnce : Roster EntityRef := .empty
  /-- Entities whose record is saved by another writer just before the next save. -/
  conflictOnce : Roster EntityRef := .empty
  /-- Suppliers and parts cannot be listed. -/
  failingListings : Bool := false
  /-- The next event cannot be logged. -/
  failingEventOnce : Bool := false

structure FaultyStore where
  store : Store
  faults : Faults

namespace FaultyStore

/-- A store without faults. -/
def plain (s : Store) : FaultyStore := ⟨s, {}⟩

/-- Carries out a call on the store inside. -/
def pass (f : FaultyStore) (c : StoreCall) : Except RiskError c.Answer × FaultyStore :=
  match f.store.perform c with
  | .ok (answer, store) => (.ok answer, { f with store })
  | .error e => (.error e, f)

/-- The read of a history of an entity. -/
def readHistory (f : FaultyStore) (entity : EntityRef) (c : StoreCall) :
    Except RiskError c.Answer × FaultyStore :=
  if f.faults.missing.contains entity.rank then (.error (.notFound entity), f)
  else if f.faults.transientOnce.contains entity.rank then
    (.error (.transient ("injected failure reading " ++ entity.text)),
      { f with faults :=
        { f.faults with transientOnce := f.faults.transientOnce.erase entity.rank } })
  else f.pass c

/-- The read or creation of the risk record of an entity. -/
def readRisk (f : FaultyStore) (entity : EntityRef) (c : StoreCall) :
    Except RiskError c.Answer × FaultyStore :=
  if f.faults.missing.contains entity.rank then (.error (.notFound entity), f) else f.pass c

/-- Uses up a conflict on an entity; `bump` is the other writer's save. -/
def raceWriter (f : FaultyStore) (entity : EntityRef) (bump : Store → Store) : FaultyStore :=
  if f.faults.conflictOnce.contains entity.rank then
    { store := bump f.store
      faults := { f.faults with conflictOnce := f.faults.conflictOnce.erase entity.rank } }
  else f

/-- The store behind the save of another writer that strikes just before a call, if one does. -/
def raced (f : FaultyStore) : StoreCall → FaultyStore
  | .saveSupplierRisk record => f.raceWriter record.entity (·.bumpSupplierRisk record.supplier)
  | .savePartRisk record => f.raceWriter record.entity (·.bumpPartRisk record.part)
  | _ => f

/-- A listing of entities. -/
def list (f : FaultyStore) (target : String) (c : StoreCall) :
    Except RiskError c.Answer × FaultyStore :=
  if f.faults.failingListings then (.error (.transient ("cannot list " ++ target)), f) else f.pass c

/-- Carries out a call, faults permitting. -/
def perform (f : FaultyStore) (c : StoreCall) : Except RiskError c.Answer × FaultyStore :=
  match c with
  | .suppliers => f.list "suppliers" .suppliers
  | .parts => f.list "parts" .parts
  | .supplierHistory id => f.readHistory (.supplier id) (.supplierHistory id)
  | .partHistory id => f.readHistory (.part id) (.partHistory id)
  | .supplierRisk id threshold => f.readRisk (.supplier id) (.supplierRisk id threshold)
  | .partRisk id => f.readRisk (.part id) (.partRisk id)
  | .saveSupplierRisk record =>
      (f.raceWriter record.entity (·.bumpSupplierRisk record.supplier)).pass (.saveSupplierRisk record)
  | .savePartRisk record =>
      (f.raceWriter record.entity (·.bumpPartRisk record.part)).pass (.savePartRisk record)
  | .insertEvent draft =>
      if f.faults.failingEventOnce then
        (.error (.transient ("injected failure logging " ++ Text.quoted draft.title)),
          { f with faults := { f.faults with failingEventOnce := false } })
      else f.pass (.insertEvent draft)
  | other => f.pass other

/-! ## Numbers and versions -/

/-- Whether the other writer that strikes just before a call can raise the version that it finds. -/
def raceFits (f : FaultyStore) : StoreCall → Bool
  | .saveSupplierRisk record =>
      !f.faults.conflictOnce.contains record.entity.rank
        || (f.store.supplierRisks.find? record.supplier.value.toNat).all (Word.hasNext ·.version)
  | .savePartRisk record =>
      !f.faults.conflictOnce.contains record.entity.rank
        || (f.store.partRisks.find? record.part.value.toNat).all (Word.hasNext ·.version)
  | _ => true

/-- Whether all numbers and versions that a call needs are words.  A call that fails needs none. -/
def hasRoom (f : FaultyStore) (c : StoreCall) : Bool :=
  f.raceFits c && ((f.raced c).store.hasNumberFor c || !(f.perform c).1.isOk)

/-- What is left when a call is given up for want of a number or version.  A conflict is used up all the same. -/
def giveUp (f : FaultyStore) (c : StoreCall) : FaultyStore :=
  if f.raceFits c then f.raced c else { f.raced c with store := f.store }

end FaultyStore

end SupplyRisk
