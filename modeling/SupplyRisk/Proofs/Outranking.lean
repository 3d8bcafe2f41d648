import Mathlib.Data.List.Nodup

/-!
# Sorting by weight and number

Candidates and notifications are sorted with the greatest weight first, and by number where weights are equal.  When no
number comes twice the order is strict (`pairwise_outranks`), and then the members alone determine the list
(`eq_of_outranks`).
-/

namespace SupplyRisk

variable {α : Type} {weight number : α → Nat} {a b : α} {l l' : List α}

/-- Heavier, or as heavy and of a smaller number. -/
def Outranks (weight number : α → Nat) (a b : α) : Prop :=
  weight b < weight a ∨ weight a = weight b ∧ number a < number b

theorem Outranks.asymm (hab : Outranks weight number a b) : ¬ Outranks weight number b a := by
  unfold Outranks at hab ⊢
  omega

/-- Sorted by weight and number, members of different numbers are in strict order. -/
theorem pairwise_outranks {le : α → α → Bool}
    (hle : ∀ a b, le a b = true ↔ weight b < weight a ∨ weight a = weight b ∧ number a ≤ number b)
    (hnodup : ((l.mergeSort le).map number).Nodup) : (l.mergeSort le).Pairwise (Outranks weight number) := by
  have hsorted : (l.mergeSort le).Pairwise (fun a b => le a b = true) := by
    apply List.pairwise_mergeSort
    · intro a b c hab hbc
      rw [hle] at hab hbc ⊢
      omega
    · intro a b
      rw [Bool.or_eq_true, hle, hle]
      omega
  refine (hsorted.and (List.pairwise_map.1 hnodup)).imp fun {a b} hboth => ?_
  have hab := (hle a b).1 hboth.1
  have hne : number a ≠ number b := hboth.2
  unfold Outranks
  omega

/-- In strict order, the same members stand in the same places. -/
theorem eq_of_outranks (hl : l.Pairwise (Outranks weight number)) (hl' : l'.Pairwise (Outranks weight number))
    (hsame : ∀ x, x ∈ l' ↔ x ∈ l) : l' = l := by
  have hnodup {l : List α} (hl : l.Pairwise (Outranks weight number)) : l.Nodup :=
    hl.imp fun hab heq => by
      subst heq
      exact hab.asymm hab
  have hperm : l'.Perm l := (List.perm_ext_iff_of_nodup (hnodup hl') (hnodup hl)).2 hsame
  exact hperm.eq_of_pairwise (fun a b _ _ hab hba => absurd hba hab.asymm) hl' hl

end SupplyRisk
