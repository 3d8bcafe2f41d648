/-!
# Rosters

A `Roster` holds rows in ascending order of their ranks, one row per rank.  `insert` replaces the row of the
same rank.  A roster of identities is a set, one of records a table keyed by identity.
-/

namespace SupplyRisk

/-- Things that are told apart and ordered by a number. -/
class Ranked (α : Type) where
  rank : α → Nat

open Ranked (rank)

variable {α : Type} [Ranked α]

/-- Strictly ascending ranks. -/
def Ascending (rows : List α) : Prop := rows.Pairwise (fun a b => rank a < rank b)

/-- Puts a row in its place, over a row of the same rank. -/
def insertRow (a : α) : List α → List α
  | [] => [a]
  | b :: bs =>
      if rank a < rank b then a :: b :: bs
      else if rank b < rank a then b :: insertRow a bs
      else a :: bs

theorem mem_insertRow {a x : α} {rows : List α} (h : x ∈ insertRow a rows) :
    x = a ∨ x ∈ rows := by
  induction rows with
  | nil => simpa [insertRow] using h
  | cons b bs ih =>
      unfold insertRow at h
      split at h
      · simpa using h
      · split at h
        · rcases List.mem_cons.1 h with rfl | h
          · simp
          · rcases ih h with rfl | h <;> simp [*]
        · rcases List.mem_cons.1 h with rfl | h <;> simp [*]

theorem ascending_insertRow (a : α) {rows : List α} (h : Ascending rows) :
    Ascending (insertRow a rows) := by
  induction rows with
  | nil => simp [insertRow, Ascending]
  | cons b bs ih =>
      obtain ⟨above, rest⟩ := List.pairwise_cons.1 h
      unfold insertRow
      split
      · rename_i lt
        refine List.pairwise_cons.2 ⟨fun x hx => ?_, h⟩
        rcases List.mem_cons.1 hx with rfl | hx
        · exact lt
        · exact Nat.lt_trans lt (above x hx)
      · split
        · rename_i lt
          refine List.pairwise_cons.2 ⟨fun x hx => ?_, ih rest⟩
          rcases mem_insertRow hx with rfl | hx
          · exact lt
          · exact above x hx
        · rename_i notLt notGt
          refine List.pairwise_cons.2 ⟨fun x hx => ?_, rest⟩
          have := above x hx
          omega

structure Roster (α : Type) [Ranked α] where
  rows : List α
  ascending : Ascending rows

namespace Roster

def empty : Roster α := ⟨[], List.Pairwise.nil⟩

def insert (r : Roster α) (a : α) : Roster α := ⟨insertRow a r.rows, ascending_insertRow a r.ascending⟩

/-- The rows of a list; of several with one rank the last one stays. -/
def ofList (rows : List α) : Roster α := rows.foldl insert empty

/-- The row of a rank. -/
def find? (r : Roster α) (n : Nat) : Option α := r.rows.find? (fun a => rank a == n)

def contains (r : Roster α) (n : Nat) : Bool := (r.find? n).isSome

/-- Drops the row of a rank. -/
def erase (r : Roster α) (n : Nat) : Roster α :=
  ⟨r.rows.filter (fun a => rank a != n), r.ascending.filter _⟩

/-- The greatest rank. -/
def lastRank? (r : Roster α) : Option Nat := r.rows.getLast?.map rank

instance : Inhabited (Roster α) := ⟨empty⟩

@[ext] theorem ext {r s : Roster α} (h : r.rows = s.rows) : r = s := by
  cases r; cases s; cases h; rfl

instance [DecidableEq α] : DecidableEq (Roster α) := fun r s =>
  decidable_of_iff (r.rows = s.rows) ⟨ext, fun h => h ▸ rfl⟩

end Roster

end SupplyRisk
