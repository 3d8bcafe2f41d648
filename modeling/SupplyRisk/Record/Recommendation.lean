import SupplyRisk.Record.SupplierRisk

/-!
# Recommendations

A suggestion of another supplier for a part.  Only the review may change it.
-/

namespace SupplyRisk

/-- A recommendation without a number yet. -/
structure RecommendationDraft where
  part : PartId
  primarySupplier : Option SupplierId
  suggestedSupplier : SupplierId
  similarity : UInt8
  reason : String
deriving DecidableEq

structure Recommendation where
  id : RecommendationId
  part : PartId
  /-- The supplier to which the suggestion is an alternative, if known. -/
  primarySupplier : Option SupplierId
  suggestedSupplier : SupplierId
  similarity : UInt8
  reason : String
  reviewed : Bool
  reviewDate : Option Date
  reviewNotes : String
deriving DecidableEq

instance : Ranked Recommendation := ⟨fun r => r.id.value.toNat⟩

namespace RecommendationDraft

def check (d : RecommendationDraft) : Except RiskError Unit := do
  let _ ← checkPercentage "similarity_score" d.similarity.toNat

def read? (j : Json) : Option RecommendationDraft := do
  let f ← Document.record? ["part", "primary_supplier", "suggested_supplier", "similarity_score",
    "reason"] j
  some {
    part := ← f.required "part" PartId.read?
    primarySupplier := ← f.optional "primary_supplier" SupplierId.read?
    suggestedSupplier := ← f.required "suggested_supplier" SupplierId.read?
    similarity := ← f.required "similarity_score" Document.uint8?
    reason := ← f.withDefault "reason" Document.text? "" }

def toJson (d : RecommendationDraft) : Json :=
  .object [("part", idJson d.part.value),
    ("primary_supplier", .ofOption (fun id => idJson id.value) d.primarySupplier),
    ("suggested_supplier", idJson d.suggestedSupplier.value),
    ("similarity_score", .nat d.similarity.toNat), ("reason", .string d.reason)]

end RecommendationDraft

namespace Recommendation

def ofDraft (id : RecommendationId) (d : RecommendationDraft) : Recommendation where
  id := id
  part := d.part
  primarySupplier := d.primarySupplier
  suggestedSupplier := d.suggestedSupplier
  similarity := d.similarity
  reason := d.reason
  reviewed := false
  reviewDate := none
  reviewNotes := ""

def review (r : Recommendation) (notes : String) (on : Date) : Recommendation :=
  { r with reviewed := true, reviewDate := some on, reviewNotes := notes }

def read? (j : Json) : Option Recommendation := do
  let f ← Document.record? ["id", "part", "primary_supplier", "suggested_supplier",
    "similarity_score", "reason", "reviewed", "review_date", "review_notes"] j
  some {
    id := ← f.required "id" RecommendationId.read?
    part := ← f.required "part" PartId.read?
    primarySupplier := ← f.optional "primary_supplier" SupplierId.read?
    suggestedSupplier := ← f.required "suggested_supplier" SupplierId.read?
    similarity := ← f.required "similarity_score" Document.uint8?
    reason := ← f.required "reason" Document.text?
    reviewed := ← f.withDefault "reviewed" Document.flag? false
    reviewDate := ← f.optional "review_date" Date.ofJson?
    reviewNotes := ← f.withDefault "review_notes" Document.text? "" }

def toJson (r : Recommendation) : Json :=
  .object [("id", idJson r.id.value), ("part", idJson r.part.value),
    ("primary_supplier", .ofOption (fun id => idJson id.value) r.primarySupplier),
    ("suggested_supplier", idJson r.suggestedSupplier.value),
    ("similarity_score", .nat r.similarity.toNat), ("reason", .string r.reason),
    ("reviewed", .bool r.reviewed), ("review_date", .ofOption Date.toJson r.reviewDate),
    ("review_notes", .string r.reviewNotes)]

end Recommendation

end SupplyRisk
