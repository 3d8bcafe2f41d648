import SupplyRisk.Store.Script

/-!
# Suggesting other suppliers

Parts at high risk with a single source get suggestions: suppliers of other parts of the same category,
ranked by how many of those parts they offer.  Suppliers already linked to the part never count.  The best
candidates are taken first; those already suggested are then left out, so a repeated run adds nothing.
-/

namespace SupplyRisk

structure Candidate where
  supplier : SupplierId
  /-- The number of different parts of the category that the supplier offers. -/
  sharedParts : Nat
deriving DecidableEq

namespace Candidate

/-- More shared parts first, then by supplier. -/
def le (a b : Candidate) : Bool :=
  b.sharedParts < a.sharedParts
    || (a.sharedParts = b.sharedParts && a.supplier.value ≤ b.supplier.value)

end Candidate

/-- Offerings of other parts by suppliers that are not linked to the part. -/
def relevantOfferings (h : PartHistory) (offerings : List SupplierPart) : List SupplierPart :=
  offerings.filter (fun o => o.part ≠ h.part.id && !h.linkedSuppliers.contains o.supplier)

/-- The different parts that a supplier offers. -/
def partsOffered (offerings : List SupplierPart) (supplier : SupplierId) : Roster PartId :=
  .ofList ((offerings.filter (fun o => o.supplier = supplier)).map (·.part))

/-- Candidates for a part, the best first. -/
def rankCandidates (h : PartHistory) (offerings : List SupplierPart) : List Candidate :=
  let relevant := relevantOfferings h offerings
  let suppliers : Roster SupplierId := .ofList (relevant.map (·.supplier))
  let candidates := suppliers.rows.map (fun s => Candidate.mk s (partsOffered relevant s).rows.length)
  candidates.mergeSort Candidate.le

/-- Similarity of a candidate: a base and an addition per shared part, at most one hundred. -/
def RecommendationConfig.similarity (c : RecommendationConfig) (sharedParts : Nat) : UInt8 :=
  UInt8.ofNat (min (c.baseSimilarity.toNat + sharedParts * c.perSharedPart.toNat) 100)

namespace Suggestion

def draft (c : RecommendationConfig) (h : PartHistory) (category : PartCategory)
    (candidate : Candidate) : RecommendationDraft where
  part := h.part.id
  primarySupplier := h.suppliers.head?
  suggestedSupplier := candidate.supplier
  similarity := c.similarity candidate.sharedParts
  reason := "Supplier provides similar parts in category " ++ category.name

/-- The suggestions to add, given those that the part already has. -/
def plan (c : RecommendationConfig) (h : PartHistory) (offerings : List SupplierPart)
    (existing : List Recommendation) : List RecommendationDraft :=
  match h.part.category with
  | none => []
  | some category =>
      let best := (rankCandidates h offerings).take c.maxPerPart.toNat
      let fresh := best.filter
        (fun candidate => !(existing.map (·.suggestedSupplier)).contains candidate.supplier)
      fresh.map (draft c h category)

/-- Stores drafts; one that another writer stored meanwhile is left out. -/
def insertAll : List RecommendationDraft → Script (List Recommendation)
  | [] => return []
  | d :: ds => do
      match ← Script.attempt (.insertRecommendation d) with
      | .ok r => return r :: (← insertAll ds)
      | .error (.uniqueViolation _) => insertAll ds
      | .error e => Script.fail e

/-- Adds suggestions for a part; nothing for parts that are not eligible or have no category. -/
def generate (c : RecommendationConfig) (record : PartRisk) (h : PartHistory) :
    Script (List Recommendation) :=
  match record.isEligible, h.part.category with
  | true, some category => do
      let offerings ← Script.ask (.categoryOfferings category.id)
      let existing ← Script.ask (.recommendationsForPart h.part.id)
      insertAll (plan c h offerings existing)
  | _, _ => return []

end Suggestion

end SupplyRisk
