import SupplyRisk.Proofs.Store.OneSuggestion
import SupplyRisk.Proofs.Suggestion.Ranking

/-!
# What generating suggestions adds

For a part that is eligible and has a category, `generate` adds suggestions of the first suppliers in the ranking,
those left out that are suggested already (`generate_of_eligible`).  Everything that it says about them can be read
off the inventory (`generated_exactly`).  New suggestions get the numbers after the greatest one, and these have to
exist: behind the last number of a word no suggestion is stored (`last_number_ends_suggestions`).
-/

namespace SupplyRisk

namespace Store

variable {s : Store} {id : PartId} {h : PartHistory} {supplier : SupplierId} {part : PartId} {category : UInt64}

/-- The best suppliers that could be suggested for a part of the category, in the order of the ranking. -/
def bestSuppliers (s : Store) (c : RecommendationConfig) (h : PartHistory) (category : UInt64) : List SupplierId :=
  ((rankCandidates h (s.categoryOfferings category)).take c.maxPerPart.toNat).map (·.supplier)

/-- Those of them that are not suggested yet. -/
def freshSuppliers (s : Store) (c : RecommendationConfig) (h : PartHistory) (category : UInt64) : List SupplierId :=
  (s.bestSuppliers c h category).filter (fun supplier => !s.isSuggested h.part.id supplier)

/-- The other parts of the category that a supplier offers. -/
def otherParts (s : Store) (id : PartId) (category : UInt64) (supplier : SupplierId) : Finset PartId :=
  ((s.links.filter (fun l => l.supplier = supplier && s.isInCategory category l.part)).map (·.part)).toFinset.erase id

theorem mem_otherParts : part ∈ s.otherParts id category supplier ↔
    part ≠ id ∧ ⟨supplier, part⟩ ∈ s.links ∧ s.isInCategory category part = true := by
  unfold otherParts
  rw [Finset.mem_erase, List.mem_toFinset, List.mem_map]
  refine and_congr_right fun _ => ⟨?_, fun hmem => ⟨⟨supplier, part⟩, by simpa using hmem, rfl⟩⟩
  rintro ⟨l, hl, rfl⟩
  obtain ⟨hmem, hboth⟩ := List.mem_filter.1 hl
  obtain ⟨hsupplier, hcategory⟩ := Bool.and_eq_true_iff.1 hboth
  exact ⟨by rwa [← of_decide_eq_true hsupplier], hcategory⟩

theorem mem_categoryOfferings {o : SupplierPart} : o ∈ s.categoryOfferings category ↔
    o ∈ s.links ∧ s.isActive o.supplier = true ∧ s.isInCategory category o.part = true := by
  unfold categoryOfferings
  rw [List.mem_filter, Bool.and_eq_true]

/-- Of an active supplier all other parts of the category are shared ones. -/
theorem sharedParts_categoryOfferings (hactive : s.isActive supplier = true) :
    sharedParts h (s.categoryOfferings category) supplier = s.otherParts h.part.id category supplier := by
  ext part
  rw [mem_sharedParts, mem_otherParts, mem_categoryOfferings]
  simp only [hactive, true_and]

/-- A history lists the suppliers as the links do. -/
theorem suppliers_of_partHistory (hhistory : s.partHistory id = .ok h) :
    h.linkedSuppliers = (s.links.filter (fun l => l.part = id)).map (·.supplier) ∧
      h.suppliers = h.linkedSuppliers.filter s.isActive := by
  unfold partHistory at hhistory
  split at hhistory
  · cases hhistory
  · cases hhistory
    exact ⟨rfl, rfl⟩

theorem mem_linkedSuppliers (hhistory : s.partHistory id = .ok h) :
    supplier ∈ h.linkedSuppliers ↔ ⟨supplier, id⟩ ∈ s.links := by
  rw [(suppliers_of_partHistory hhistory).1, List.mem_map]
  refine ⟨?_, fun hmem => ⟨⟨supplier, id⟩, List.mem_filter.2 ⟨hmem, decide_eq_true rfl⟩, rfl⟩⟩
  rintro ⟨l, hl, rfl⟩
  obtain ⟨hmem, hpart⟩ := List.mem_filter.1 hl
  rwa [← of_decide_eq_true hpart]

/-- A candidate for a part of the category is active, has no link to the part and offers others. -/
theorem of_mem_rankCandidates_category (hhistory : s.partHistory id = .ok h) {candidate : Candidate}
    (hmem : candidate ∈ rankCandidates h (s.categoryOfferings category)) :
    s.isActive candidate.supplier = true ∧ ⟨candidate.supplier, id⟩ ∉ s.links ∧
      (s.otherParts id category candidate.supplier).Nonempty ∧
      candidate.sharedParts = (s.otherParts id category candidate.supplier).card := by
  obtain ⟨hunlinked, ⟨o, ho, hsupplier, hother⟩, hcount⟩ := mem_rankCandidates_iff.1 hmem
  obtain ⟨hlink, hactive, hcategory⟩ := mem_categoryOfferings.1 ho
  rw [hsupplier] at hactive
  have hid := id_of_partHistory hhistory
  rw [sharedParts_categoryOfferings hactive, hid] at hcount
  refine ⟨hactive, fun hlinked => hunlinked ((mem_linkedSuppliers hhistory).2 hlinked), ⟨o.part, ?_⟩, hcount⟩
  exact mem_otherParts.2 ⟨hid ▸ hother, hsupplier ▸ hlink, hcategory⟩

/-- No more are fresh than the configuration allows. -/
theorem length_freshSuppliers_lt (s : Store) (c : RecommendationConfig) (h : PartHistory) (category : UInt64) :
    (s.freshSuppliers c h category).length < Word.count64 := by
  have hle : (s.freshSuppliers c h category).length ≤ c.maxPerPart.toNat := by
    refine (List.length_filter_le _ _).trans ?_
    rw [bestSuppliers, List.length_map]
    exact List.length_take_le _ _
  exact Nat.lt_of_le_of_lt hle c.maxPerPart.toNat_lt

end Store

theorem RecommendationConfig.toNat_similarity (c : RecommendationConfig) (count : Nat) :
    (c.similarity count).toNat = min 100 (c.baseSimilarity.toNat + c.perSharedPart.toNat * count) := by
  rw [similarity, UInt8.toNat_ofNat', Nat.min_comm, Nat.mul_comm]
  exact Nat.mod_eq_of_lt (by omega)

namespace Suggestion

open Store

variable {s : Store} {c : RecommendationConfig} {record : PartRisk} {id : PartId} {h : PartHistory}
  {category : PartCategory} {d : RecommendationDraft}

theorem planned_eq (hcategory : h.part.category = some category) : planned s c h category =
    (((rankCandidates h (s.categoryOfferings category.id)).take c.maxPerPart.toNat).filter
      (fun candidate => !s.isSuggested h.part.id candidate.supplier)).map (draft c h category) := by
  have hsuggested (supplier : SupplierId) :
      ((s.recommendationsForPart h.part.id).map (·.suggestedSupplier)).contains supplier =
        s.isSuggested h.part.id supplier := by
    rw [Bool.eq_iff_iff, isSuggested_iff, List.contains_iff_mem, List.mem_map]
  unfold planned plan
  simp only [hcategory, hsuggested]

/-- The fresh suppliers are planned, in their order. -/
theorem map_planned (hcategory : h.part.category = some category) :
    (planned s c h category).map (·.suggestedSupplier) = s.freshSuppliers c h category.id := by
  rw [planned_eq hcategory, freshSuppliers, bestSuppliers, List.filter_map, List.map_map]
  rfl

theorem exists_planned_iff (hcategory : h.part.category = some category) {supplier : SupplierId} :
    (∃ d ∈ planned s c h category, d.part = h.part.id ∧ d.suggestedSupplier = supplier) ↔
      supplier ∈ s.bestSuppliers c h category.id ∧ s.isSuggested h.part.id supplier = false := by
  have hfresh : supplier ∈ s.freshSuppliers c h category.id ↔
      supplier ∈ s.bestSuppliers c h category.id ∧ s.isSuggested h.part.id supplier = false := by
    rw [freshSuppliers, List.mem_filter, Bool.not_eq_true']
  rw [← hfresh, ← map_planned hcategory, List.mem_map]
  constructor
  · rintro ⟨d, hd, -, hsupplier⟩
    exact ⟨d, hd, hsupplier⟩
  · rintro ⟨d, hd, hsupplier⟩
    exact ⟨d, hd, (of_mem_planned hd).1, hsupplier⟩

theorem map_suggestions (hcategory : h.part.category = some category) :
    (s.suggestions (planned s c h category)).map (·.suggestedSupplier) = s.freshSuppliers c h category.id := by
  have hsays := s.map_draft_suggestions (planned s c h category)
  rw [← map_planned hcategory, ← hsays, List.map_map, hsays]
  rfl

/-- There is a number for all that is planned if there is room for so many above every stored one. -/
theorem suggestsAll_planned (hcategory : h.part.category = some category)
    (hroom : ∀ r ∈ s.recommendations.rows,
      r.id.value.toNat + (s.freshSuppliers c h category.id).length < Word.count64) :
    s.suggestsAll (planned s c h category) = true := by
  have hlength := congrArg List.length (map_planned (c := c) (s := s) hcategory)
  rw [List.length_map] at hlength
  exact suggestsAll_iff.2 ⟨hlength ▸ s.length_freshSuppliers_lt c h category.id, hlength ▸ hroom⟩

/-- Then the best suppliers are suggested besides those that were suggested before. -/
theorem isSuggested_of_planned (hcategory : h.part.category = some category)
    (hrows : ((planned s c h category).foldl Store.suggest s).recommendations.rows =
      s.recommendations.rows ++ s.suggestions (planned s c h category)) (supplier : SupplierId) :
    ((planned s c h category).foldl Store.suggest s).isSuggested h.part.id supplier = true ↔
      s.isSuggested h.part.id supplier = true ∨ supplier ∈ s.bestSuppliers c h category.id := by
  rw [isSuggested_foldl_suggest hrows, exists_planned_iff hcategory]
  cases s.isSuggested h.part.id supplier <;> simp

/-- Once all the best suppliers are suggested nothing more is planned. -/
theorem planned_eq_nil (hcategory : h.part.category = some category)
    (hall : ∀ supplier ∈ s.bestSuppliers c h category.id, s.isSuggested h.part.id supplier = true) :
    planned s c h category = [] := by
  rw [planned_eq hcategory, List.map_eq_nil_iff, List.filter_eq_nil_iff]
  intro candidate hmem
  rw [hall candidate.supplier (List.mem_map_of_mem hmem)]
  exact Bool.false_ne_true

end Suggestion

/-- The recommendation is what the inventory calls for: it suggests, in place of the first active supplier of the part,
an active one that is not linked to the part and offers others of its category, and rates it by how many these are. -/
structure Recommendation.Founded (s : Store) (c : RecommendationConfig) (id : PartId) (category : UInt64)
    (r : Recommendation) : Prop where
  part : r.part = id
  primary : r.primarySupplier = ((s.links.filter (fun l => l.part = id)).map (·.supplier)).find? s.isActive
  active : s.isActive r.suggestedSupplier = true
  unlinked : ⟨r.suggestedSupplier, id⟩ ∉ s.links
  offers : (s.otherParts id category r.suggestedSupplier).Nonempty
  similarity : r.similarity.toNat = min 100
    (c.baseSimilarity.toNat + c.perSharedPart.toNat * (s.otherParts id category r.suggestedSupplier).card)

namespace Suggestion

open Store

variable {s : Store} {c : RecommendationConfig} {record : PartRisk} {id : PartId} {h : PartHistory}
  {category : PartCategory}

theorem founded_of_planned (hhistory : s.partHistory id = .ok h) (hcategory : h.part.category = some category)
    {r : Recommendation} (hplanned : r.draft ∈ planned s c h category) : r.Founded s c id category.id := by
  rw [planned_eq hcategory] at hplanned
  obtain ⟨candidate, hcandidate, hdraft⟩ := List.mem_map.1 hplanned
  have hranked := List.mem_of_mem_take (List.mem_filter.1 hcandidate).1
  obtain ⟨hactive, hunlinked, hoffers, hcount⟩ := of_mem_rankCandidates_category hhistory hranked
  have hsupplier : candidate.supplier = r.suggestedSupplier := congrArg (·.suggestedSupplier) hdraft
  rw [hsupplier] at hactive hunlinked hoffers hcount
  obtain ⟨hlinked, hsuppliers⟩ := suppliers_of_partHistory hhistory
  refine ⟨?_, ?_, hactive, hunlinked, hoffers, ?_⟩
  · exact (congrArg (·.part) hdraft).symm.trans (id_of_partHistory hhistory)
  · rw [← hlinked, ← List.head?_filter, ← hsuppliers]
    exact (congrArg (·.primarySupplier) hdraft).symm
  · rw [← hcount, ← c.toNat_similarity]
    exact congrArg (fun d : RecommendationDraft => d.similarity.toNat) hdraft.symm

/-- **What is generated for a part.**  For a part that is at high risk with a single source and has a category,
generating succeeds.  It answers the suggestions that are new, of the best suppliers in the ranking those that were not
suggested before, and stores them behind the others; nothing else changes.  So what is suggested afterwards is what was
suggested before and the best suppliers.  Every new suggestion is founded on the inventory, and generating once more
adds nothing.  All this needs numbers for the new suggestions.  For any other part nothing happens at all. -/
theorem generated_exactly (s : Store) (c : RecommendationConfig) (record : PartRisk) {id : PartId} {h : PartHistory}
    (hhistory : s.partHistory id = .ok h) :
    (∀ category, record.level.isHigh = true → record.singleSource = true → h.part.category = some category →
      (∀ r ∈ s.recommendations.rows,
        r.id.value.toNat + (s.freshSuppliers c h category.id).length < Word.count64) →
      ∃ created t, (generate c record h).run (.plain s) = (.ok created, .plain t) ∧
        t = { s with recommendations := t.recommendations } ∧
        t.recommendations.rows = s.recommendations.rows ++ created ∧
        created.map (·.suggestedSupplier) = s.freshSuppliers c h category.id ∧
        (∀ supplier, t.isSuggested id supplier = true ↔
          s.isSuggested id supplier = true ∨ supplier ∈ s.bestSuppliers c h category.id) ∧
        (∀ r ∈ created, r.Founded s c id category.id) ∧
        (generate c record h).run (.plain t) = (.ok [], .plain t)) ∧
    (¬ (record.level.isHigh = true ∧ record.singleSource = true) ∨ h.part.category = none →
      ∀ f, (generate c record h).run f = (.ok [], f)) := by
  have hid := id_of_partHistory hhistory
  refine ⟨fun category hhigh hsingle hcategory hroom => ?_, fun hnot f => generate_of_ineligible (hnot.imp_left ?_) f⟩
  · have heligible : record.isEligible = true := by rw [PartRisk.isEligible, hhigh, hsingle, Bool.and_self]
    have hall := suggestsAll_planned (c := c) hcategory hroom
    have hrun := (generate_of_eligible (c := c) (s := s) heligible hcategory).trans (if_pos hall)
    have hrows := (numbered_suggestions hall).rows
    have hrest := s.foldl_suggest (planned s c h category)
    have hsuggested (supplier : SupplierId) := isSuggested_of_planned hcategory hrows supplier
    generalize (planned s c h category).foldl Store.suggest s = t at hrun hrows hrest hsuggested
    -- The inventory is as it was, so the ranking is the same, and all its best suppliers are suggested now.
    have hbest : t.bestSuppliers c h category.id = s.bestSuppliers c h category.id := by
      rw [bestSuppliers, categoryOfferings_congr (congrArg Store.inventory hrest) category.id]
      rfl
    have hagain : planned t c h category = [] :=
      planned_eq_nil hcategory fun supplier hmem => (hsuggested supplier).2 (.inr (hbest ▸ hmem))
    refine ⟨_, t, hrun, hrest, hrows, map_suggestions hcategory, hid ▸ hsuggested, fun r hr => ?_, ?_⟩
    · refine founded_of_planned hhistory hcategory ?_
      rw [← s.map_draft_suggestions (planned s c h category)]
      exact List.mem_map_of_mem hr
    · rw [generate_of_eligible heligible hcategory, hagain]
      rfl
  · intro hnot
    rw [PartRisk.isEligible, Bool.eq_false_iff]
    exact fun hboth => hnot (Bool.and_eq_true_iff.1 hboth)

/-- The record of a part with a single source. -/
def exposedHousing : PartRisk :=
  { PartRisk.new ⟨10⟩ with singleSource := true, combined := 65, level := .high }

/-- The gearbox housing has a single source; two other suppliers offer the drive shaft, which is of its category. -/
def castingStore (known : Recommendation) : Store where
  suppliers := .ofList [⟨⟨1⟩, "S0001", "Acme Castings", true, none⟩, ⟨⟨2⟩, "S0002", "Borealis Works", true, none⟩,
    ⟨⟨3⟩, "S0003", "Crane Foundry", true, none⟩]
  parts := .ofList [housingHistory.part, ⟨⟨11⟩, "P0011", "Drive shaft", some ⟨5, "Castings"⟩, none⟩]
  links := [⟨⟨1⟩, ⟨10⟩⟩, ⟨⟨2⟩, ⟨11⟩⟩, ⟨⟨3⟩, ⟨11⟩⟩]
  orderLines := []
  stockItems := []
  supplierRisks := .empty
  partRisks := .ofList [exposedHousing]
  alerts := .empty
  recommendations := .ofList [known]
  events := .empty

theorem rankCandidates_castingStore (known : Recommendation) :
    rankCandidates housingHistory ((castingStore known).categoryOfferings 5) = [⟨⟨2⟩, 1⟩, ⟨⟨3⟩, 1⟩] := by
  -- The candidates are collected in this order already.
  have hsorted : [(⟨⟨2⟩, 1⟩ : Candidate), ⟨⟨3⟩, 1⟩].Pairwise (fun a b => Candidate.le a b = true) := by decide
  unfold rankCandidates
  exact List.mergeSort_of_pairwise hsorted

/-- The second supplier is suggested for the housing already, so only the third one is suggested anew. -/
theorem third_supplier_is_suggested_too :
    let known : Recommendation := .ofDraft ⟨1⟩ ⟨⟨10⟩, some ⟨1⟩, ⟨2⟩, 60, ""⟩
    (castingStore known).partRisks.find? 10 = some exposedHousing ∧ exposedHousing.level.isHigh = true ∧
      exposedHousing.singleSource = true ∧ (castingStore known).partHistory ⟨10⟩ = .ok housingHistory ∧
      ∃ created t, (generate {} exposedHousing housingHistory).run (.plain (castingStore known)) =
          (.ok created, .plain t) ∧
        created.map (·.suggestedSupplier) = [⟨3⟩] ∧ t.recommendations.rows = known :: created ∧
        (generate {} exposedHousing housingHistory).run (.plain t) = (.ok [], .plain t) := by
  intro known
  have hhistory : (castingStore known).partHistory ⟨10⟩ = .ok housingHistory := rfl
  have hfresh : (castingStore known).freshSuppliers {} housingHistory 5 = [⟨3⟩] := by
    rw [freshSuppliers, bestSuppliers, rankCandidates_castingStore]
    decide
  refine ⟨by decide, rfl, rfl, hhistory, ?_⟩
  obtain ⟨created, t, hrun, -, hrows, hcreated, -, -, hagain⟩ :=
    (generated_exactly _ {} exposedHousing hhistory).1 ⟨5, "Castings"⟩ rfl rfl rfl (by rw [hfresh]; decide)
  exact ⟨created, t, hrun, hcreated.trans hfresh, hrows, hagain⟩

/-- The last number of all is taken by a suggestion for another part.  Two suppliers are to be suggested for the housing,
but there is no number for the first one of them, and generating ends with nothing stored. -/
theorem last_number_ends_suggestions :
    let known : Recommendation := .ofDraft ⟨18446744073709551615⟩ ⟨⟨11⟩, some ⟨2⟩, ⟨1⟩, 60, ""⟩
    let s := castingStore known
    s.partRisks.find? 10 = some exposedHousing ∧ exposedHousing.level.isHigh = true ∧
      exposedHousing.singleSource = true ∧ s.partHistory ⟨10⟩ = .ok housingHistory ∧
      s.bestSuppliers {} housingHistory 5 = [⟨2⟩, ⟨3⟩] ∧
      (generate {} exposedHousing housingHistory).run (.plain s) = (.error .word, .plain s) := by
  intro known s
  have hbest : s.bestSuppliers {} housingHistory 5 = [⟨2⟩, ⟨3⟩] := by
    rw [bestSuppliers, rankCandidates_castingStore]
    rfl
  have hplanned : planned s {} housingHistory ⟨5, "Castings"⟩ =
      [draft {} housingHistory ⟨5, "Castings"⟩ ⟨⟨2⟩, 1⟩, draft {} housingHistory ⟨5, "Castings"⟩ ⟨⟨3⟩, 1⟩] := by
    rw [planned_eq rfl, rankCandidates_castingStore]
    rfl
  refine ⟨by decide, rfl, rfl, rfl, hbest, ?_⟩
  rw [generate_of_eligible rfl rfl, hplanned]
  rfl

end Suggestion

end SupplyRisk
