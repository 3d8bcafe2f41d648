import Mathlib.Data.Finset.Card
import SupplyRisk.Proofs.Engine.Drafts
import SupplyRisk.Proofs.Outranking
import SupplyRisk.Proofs.Store.LinkedOnce

/-!
# The ranking of candidates

Candidates are collected in sets and then sorted.  `mem_rankCandidates_iff` says which ones there are, by offerings
alone, and `pairwise_rankCandidates` how they stand.  Both together leave no choice: a list that is strictly ordered
is determined by its members.  So the ranking depends on which offerings there are, and neither on their order nor on
how often they are listed (`candidates_ranked`).
-/

namespace SupplyRisk

namespace Candidate

/-- More shared parts, or as many and a smaller number. -/
def Before (a b : Candidate) : Prop :=
  b.sharedParts < a.sharedParts ∨ a.sharedParts = b.sharedParts ∧ a.supplier.value < b.supplier.value

instance (a b : Candidate) : Decidable (a.Before b) := inferInstanceAs (Decidable (_ ∨ _))

/-- Candidates are sorted by their shared parts, then by supplier. -/
theorem le_iff (a b : Candidate) : le a b = true ↔
    b.sharedParts < a.sharedParts ∨
      a.sharedParts = b.sharedParts ∧ a.supplier.value.toNat ≤ b.supplier.value.toNat := by
  simp [le, UInt64.le_iff_toNat_le]

theorem before_iff_outranks {a b : Candidate} :
    a.Before b ↔ Outranks (·.sharedParts) (·.supplier.value.toNat) a b := Iff.rfl

end Candidate

/-- The parts, other than the one looked at, of which the supplier has an offering. -/
def sharedParts (h : PartHistory) (offerings : List SupplierPart) (supplier : SupplierId) : Finset PartId :=
  ((offerings.filter (fun o => o.supplier = supplier)).map (·.part)).toFinset.erase h.part.id

section Members

variable {h : PartHistory} {offerings : List SupplierPart} {supplier : SupplierId} {part : PartId}

theorem mem_sharedParts :
    part ∈ sharedParts h offerings supplier ↔ part ≠ h.part.id ∧ ⟨supplier, part⟩ ∈ offerings := by
  unfold sharedParts
  rw [Finset.mem_erase, List.mem_toFinset, List.mem_map]
  refine and_congr_right fun _ => ⟨?_, fun hmem => ⟨⟨supplier, part⟩, by simpa using hmem, rfl⟩⟩
  rintro ⟨o, ho, rfl⟩
  obtain ⟨hmem, hsupplier⟩ := List.mem_filter.1 ho
  rwa [← of_decide_eq_true hsupplier]

theorem mem_relevantOfferings {o : SupplierPart} : o ∈ relevantOfferings h offerings ↔
    o ∈ offerings ∧ o.part ≠ h.part.id ∧ o.supplier ∉ h.linkedSuppliers := by
  simp [relevantOfferings]

/-- A supplier that is not linked to the part is counted with its shared parts. -/
theorem length_partsOffered (hunlinked : supplier ∉ h.linkedSuppliers) :
    (partsOffered (relevantOfferings h offerings) supplier).rows.length = (sharedParts h offerings supplier).card := by
  rw [← List.toFinset_card_of_nodup (Roster.nodup _)]
  congr 1
  ext part
  rw [List.mem_toFinset, mem_sharedParts, partsOffered, Roster.mem_ofList PartId.rank_injective, List.mem_map]
  constructor
  · rintro ⟨o, ho, rfl⟩
    obtain ⟨hrelevant, hsupplier⟩ := List.mem_filter.1 ho
    obtain ⟨hmem, hother, -⟩ := mem_relevantOfferings.1 hrelevant
    exact ⟨hother, by rwa [← of_decide_eq_true hsupplier]⟩
  · rintro ⟨hother, hmem⟩
    have hrelevant : ⟨supplier, part⟩ ∈ relevantOfferings h offerings :=
      mem_relevantOfferings.2 ⟨hmem, hother, hunlinked⟩
    exact ⟨⟨supplier, part⟩, List.mem_filter.2 ⟨hrelevant, decide_eq_true rfl⟩, rfl⟩

/-- The candidates are the suppliers without a link to the part that offer another one. -/
theorem mem_rankCandidates_iff {candidate : Candidate} : candidate ∈ rankCandidates h offerings ↔
    candidate.supplier ∉ h.linkedSuppliers ∧
      (∃ o ∈ offerings, o.supplier = candidate.supplier ∧ o.part ≠ h.part.id) ∧
      candidate.sharedParts = (sharedParts h offerings candidate.supplier).card := by
  unfold rankCandidates
  dsimp only
  rw [List.mem_mergeSort, List.mem_map]
  constructor
  · rintro ⟨supplier, hsupplier, rfl⟩
    obtain ⟨o, ho, rfl⟩ := List.mem_map.1 ((Roster.mem_ofList SupplierId.rank_injective).1 hsupplier)
    obtain ⟨hmem, hother, hunlinked⟩ := mem_relevantOfferings.1 ho
    exact ⟨hunlinked, ⟨o, hmem, rfl, hother⟩, length_partsOffered hunlinked⟩
  · rintro ⟨hunlinked, ⟨o, hmem, hsupplier, hother⟩, hcount⟩
    have hrelevant : o ∈ relevantOfferings h offerings :=
      mem_relevantOfferings.2 ⟨hmem, hother, hsupplier ▸ hunlinked⟩
    refine ⟨candidate.supplier, (Roster.mem_ofList SupplierId.rank_injective).2 ?_, ?_⟩
    · exact List.mem_map.2 ⟨o, hrelevant, hsupplier⟩
    · rw [length_partsOffered hunlinked, ← hcount]

/-- The ranking is strict, since no supplier is in it twice. -/
theorem pairwise_rankCandidates (h : PartHistory) (offerings : List SupplierPart) :
    (rankCandidates h offerings).Pairwise Candidate.Before := by
  have hnumbers : (((rankCandidates h offerings).map (·.supplier)).map (·.value.toNat)).Nodup :=
    (nodup_rankCandidates h offerings).map fun s s' hsame => SupplierId.toNat_inj.1 hsame
  rw [List.map_map] at hnumbers
  exact (pairwise_outranks Candidate.le_iff hnumbers).imp Candidate.before_iff_outranks.2

/-- The ranking depends on which offerings there are. -/
theorem rankCandidates_eq_of_mem_iff {offerings' : List SupplierPart} (hsame : ∀ o, o ∈ offerings' ↔ o ∈ offerings) :
    rankCandidates h offerings' = rankCandidates h offerings := by
  have houtranks (offerings : List SupplierPart) :=
    (pairwise_rankCandidates h offerings).imp Candidate.before_iff_outranks.1
  refine eq_of_outranks (houtranks offerings) (houtranks offerings') fun candidate => ?_
  have hshared : sharedParts h offerings' candidate.supplier = sharedParts h offerings candidate.supplier := by
    ext part
    rw [mem_sharedParts, mem_sharedParts, hsame]
  simp only [mem_rankCandidates_iff, hshared, hsame]

end Members

/-- **The ranking of candidates.**  Every supplier comes once at most, and it comes if it is not linked to the part and
offers another one; it is counted with the different parts that it offers besides this one.  The more there are the
earlier it comes, and among equals by number.  Offerings in another order, or listed more often, give the same ranking. -/
theorem candidates_ranked (h : PartHistory) (offerings : List SupplierPart) :
    ((rankCandidates h offerings).map (·.supplier)).Nodup ∧
    (∀ supplier, supplier ∈ (rankCandidates h offerings).map (·.supplier) ↔
      supplier ∉ h.linkedSuppliers ∧ ∃ o ∈ offerings, o.supplier = supplier ∧ o.part ≠ h.part.id) ∧
    (∀ candidate ∈ rankCandidates h offerings,
      candidate.sharedParts = (sharedParts h offerings candidate.supplier).card) ∧
    (rankCandidates h offerings).Pairwise Candidate.Before ∧
    (∀ offerings', (∀ o, o ∈ offerings' ↔ o ∈ offerings) → rankCandidates h offerings' = rankCandidates h offerings) := by
  refine ⟨nodup_rankCandidates h offerings, fun supplier => ?_, fun candidate hmem => ?_,
    pairwise_rankCandidates h offerings, fun offerings' => rankCandidates_eq_of_mem_iff⟩
  · rw [List.mem_map]
    constructor
    · rintro ⟨candidate, hmem, rfl⟩
      obtain ⟨hunlinked, hoffers, -⟩ := mem_rankCandidates_iff.1 hmem
      exact ⟨hunlinked, hoffers⟩
    · rintro ⟨hunlinked, hoffers⟩
      let candidate : Candidate := ⟨supplier, (sharedParts h offerings supplier).card⟩
      exact ⟨candidate, mem_rankCandidates_iff.2 ⟨hunlinked, hoffers, rfl⟩, rfl⟩
  · exact (mem_rankCandidates_iff.1 hmem).2.2

/-- The history of a part that the first supplier delivers. -/
def housingHistory : PartHistory where
  part := ⟨⟨10⟩, "P0010", "Gearbox housing", some ⟨5, "Castings"⟩, none⟩
  stockItems := []
  orderLines := []
  suppliers := [⟨1⟩]
  linkedSuppliers := [⟨1⟩]

/-- Offerings of three suppliers, the last of which offers nothing but the part itself. -/
def castingOfferings : List SupplierPart :=
  [⟨⟨1⟩, ⟨10⟩⟩, ⟨⟨2⟩, ⟨12⟩⟩, ⟨⟨1⟩, ⟨11⟩⟩, ⟨⟨2⟩, ⟨11⟩⟩, ⟨⟨3⟩, ⟨10⟩⟩]

/-- Only the second supplier is a candidate, however often and in whatever order the offerings are listed. -/
theorem repeated_offerings_rank_alike :
    let ranked := rankCandidates housingHistory castingOfferings
    rankCandidates housingHistory (castingOfferings.reverse ++ castingOfferings) = ranked ∧
      (∀ supplier, supplier ∈ ranked.map (·.supplier) ↔ supplier = ⟨2⟩) ∧
      ∀ candidate ∈ ranked, candidate.sharedParts = 2 := by
  obtain ⟨-, hmem, hcount, -, hsame⟩ := candidates_ranked housingHistory castingOfferings
  have hsecond (supplier : SupplierId) :
      supplier ∈ (rankCandidates housingHistory castingOfferings).map (·.supplier) ↔ supplier = ⟨2⟩ := by
    rw [hmem]
    constructor
    · rintro ⟨hunlinked, o, ho, rfl, hother⟩
      revert o
      decide
    · rintro rfl
      decide
  refine ⟨hsame _ fun o => ?_, hsecond, fun candidate hcandidate => ?_⟩
  · rw [List.mem_append, List.mem_reverse, or_self]
  · rw [hcount candidate hcandidate, (hsecond _).1 (List.mem_map_of_mem hcandidate)]
    rfl

end SupplyRisk
