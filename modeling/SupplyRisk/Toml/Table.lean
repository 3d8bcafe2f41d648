import SupplyRisk.Toml.Value

/-!
# Building tables

The lines of a TOML text add to a tree of tables.  How a table came to be decides what may still be added to
it: a table with a header of its own is opened once, a table that only a longer header names may get its
header later, a table made by a dotted key grows by dotted keys alone, and what is written as a value is
closed.
-/

namespace SupplyRisk.Toml

/-- How a table came to be. -/
inductive Origin where
  /-- By its own header, or as the root. -/
  | header
  /-- By a longer header that passes through it. -/
  | implied
  /-- By a dotted key that passes through it. -/
  | dotted
deriving DecidableEq

/-- A value under construction. -/
inductive Node where
  /-- A value on the right of a key, which is closed. -/
  | value (v : Toml)
  | table (origin : Origin) (members : List (String × Node))
  /-- The tables of a header in double brackets, the last one first. -/
  | tables (elements : List Node)

mutual

def Node.toToml : Node → Toml
  | .value v => v
  | .table _ members => .table (Node.membersToml members)
  | .tables elements => .array (Node.elementsToml elements).reverse

def Node.membersToml : List (String × Node) → List (String × Toml)
  | [] => []
  | (key, n) :: ms => (key, n.toToml) :: membersToml ms

def Node.elementsToml : List Node → List Toml
  | [] => []
  | n :: ns => n.toToml :: elementsToml ns

end

/-- A table under construction. -/
structure Build where
  origin : Origin
  members : List (String × Node)

namespace Build

def root : Build := ⟨.header, []⟩

def node (b : Build) : Node := .table b.origin b.members

/-- Sets the value of a key in its place, or at the end if it is new. -/
def put (key : String) (n : Node) : List (String × Node) → List (String × Node)
  | [] => [(key, n)]
  | (k, m) :: ms => if k = key then (key, n) :: ms else (k, m) :: put key n ms

/-- Changes the table at the end of a path.  Tables that are missing on the way are made, of the origin that
belongs to the kind of path.  A dotted key does not pass through tables with a header. -/
def alter (made : Origin) (change : Build → Option Build) : List String → Build → Option Build
  | [], b => change b
  | key :: path, b => do
      let (inner, outer) ← match b.members.lookup key with
        | none => some (Build.mk made [], Build.node)
        | some (.table origin members) =>
            if made = .dotted ∧ origin = .header then none
            else some (Build.mk origin members, Build.node)
        | some (.tables (.table origin members :: earlier)) =>
            some (Build.mk origin members, fun b => Node.tables (b.node :: earlier))
        | some _ => none
      let changed ← alter made change path inner
      some { b with members := put key (outer changed) b.members }

/-- Adds a new key to a table that grows by dotted keys exactly if the key is dotted. -/
def addKey (dotted : Bool) (key : String) (v : Toml) (b : Build) : Option Build :=
  if dotted = (b.origin = .dotted) ∧ b.members.lookup key = none then
    some { b with members := put key (.value v) b.members }
  else none

/-- Adds a value under a key, given as its path and last part. -/
def assign (path : List String) (key : String) (v : Toml) (b : Build) : Option Build :=
  b.alter .dotted (addKey (!path.isEmpty) key v) path

/-- Gives a table its header. -/
def openKey (key : String) (b : Build) : Option Build :=
  match b.members.lookup key with
  | none => some { b with members := put key (.table .header []) b.members }
  | some (.table .implied members) =>
      some { b with members := put key (.table .header members) b.members }
  | some _ => none

/-- Opens the table of a header in single brackets. -/
def openTable (path : List String) (key : String) (b : Build) : Option Build :=
  b.alter .implied (openKey key) path

/-- Adds a table to the tables of a key. -/
def openElementKey (key : String) (b : Build) : Option Build :=
  match b.members.lookup key with
  | none => some { b with members := put key (.tables [.table .header []]) b.members }
  | some (.tables elements) =>
      some { b with members := put key (.tables (.table .header [] :: elements)) b.members }
  | some _ => none

/-- Opens a new table of a header in double brackets. -/
def openElement (path : List String) (key : String) (b : Build) : Option Build :=
  b.alter .implied (openElementKey key) path

end Build

end SupplyRisk.Toml
