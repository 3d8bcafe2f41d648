import SupplyRisk.Proofs.Engine.Recommend
import SupplyRisk.Proofs.Store.Numbered

/-!
# Which suggestions are added

The suggestions that are planned for a part have different suppliers, none of which is suggested yet, and pass the
check of the store.  So the store takes all of them as long as there are numbers (`insertAll_run`), and what recommending
does to a store without faults can be said in one line (`recommend_of_known`).  They come in under next numbers
(`numbered_suggestions`).
-/

namespace SupplyRisk

/-- What a recommendation says, its number and its review apart. -/
def Recommendation.draft (r : Recommendation) : RecommendationDraft :=
  ⟨r.part, r.primarySupplier, r.suggestedSupplier, r.similarity, r.reason⟩

@[simp] theorem Recommendation.draft_ofDraft (id : RecommendationId) (d : RecommendationDraft) :
    (Recommendation.ofDraft id d).draft = d := rfl

/-- A supplier is a candidate once. -/
theorem nodup_rankCandidates (h : PartHistory) (offerings : List SupplierPart) :
    ((rankCandidates h offerings).map (·.supplier)).Nodup := by
  unfold rankCandidates
  dsimp only
  generalize hrelevant : relevantOfferings h offerings = relevant
  generalize hsuppliers : (Roster.ofList (relevant.map (·.supplier)) : Roster SupplierId) = suppliers
  have hnodup : suppliers.rows.Nodup :=
    suppliers.ascending.imp fun {a b} hlt heq => by rw [heq] at hlt; exact Nat.lt_irrefl _ hlt
  refine ((List.mergeSort_perm _ Candidate.le).map Candidate.supplier).nodup_iff.2 ?_
  rw [List.map_map]
  exact (List.map_id suppliers.rows).symm ▸ hnodup

namespace Suggestion

variable {c : RecommendationConfig} {h : PartHistory} {offerings : List SupplierPart}
  {existing : List Recommendation}

/-- No two planned suggestions have the same supplier. -/
theorem pairwise_plan :
    (plan c h offerings existing).Pairwise (fun d d' => d.suggestedSupplier ≠ d'.suggestedSupplier) := by
  unfold plan
  split
  · exact .nil
  · rename_i category hcategory
    have hcandidates := (List.pairwise_map.1 (nodup_rankCandidates h offerings))
    exact List.pairwise_map.2 (((hcandidates.sublist (List.take_sublist _ _)).filter _).imp id)

theorem check_draft (c : RecommendationConfig) (h : PartHistory) (category : PartCategory)
    (candidate : Candidate) : (draft c h category candidate).check = .ok () := by
  have hle : (draft c h category candidate).similarity.toNat ≤ 100 := by
    show (UInt8.ofNat (min _ 100)).toNat ≤ 100
    rw [UInt8.toNat_ofNat']
    omega
  unfold RecommendationDraft.check checkPercentage
  rw [if_pos (by omega)]
  rfl

theorem of_mem_plan {d : RecommendationDraft} (hmem : d ∈ plan c h offerings existing) :
    d.part = h.part.id ∧ d.check = .ok () ∧ ∀ r ∈ existing, r.suggestedSupplier ≠ d.suggestedSupplier := by
  unfold plan at hmem
  split at hmem
  · cases hmem
  · rename_i category hcategory
    obtain ⟨candidate, hcandidate, rfl⟩ := List.mem_map.1 hmem
    obtain ⟨-, hfresh⟩ := List.mem_filter.1 hcandidate
    refine ⟨rfl, check_draft .., fun r hr hsame => ?_⟩
    have hcontained : (existing.map (·.suggestedSupplier)).contains candidate.supplier = true := by
      rw [List.contains_iff_mem]
      exact List.mem_map.2 ⟨r, hr, hsame⟩
    rw [hcontained] at hfresh
    cases hfresh

/-- Nothing is planned any more once all that was planned is suggested. -/
theorem plan_again {later : List Recommendation}
    (hplanned : ∀ d ∈ plan c h offerings existing, ∃ r ∈ later, r.suggestedSupplier = d.suggestedSupplier)
    (hkept : ∀ r ∈ existing, ∃ r' ∈ later, r'.suggestedSupplier = r.suggestedSupplier) :
    plan c h offerings later = [] := by
  unfold plan at hplanned ⊢
  cases hcategory : h.part.category with
  | none => rfl
  | some category =>
      rw [hcategory] at hplanned
      refine List.map_eq_nil_iff.2 (List.filter_eq_nil_iff.2 fun candidate hcandidate => ?_)
      have hmem : candidate.supplier ∈ later.map (·.suggestedSupplier) := by
        cases hfresh : (existing.map (·.suggestedSupplier)).contains candidate.supplier with
        | true =>
            obtain ⟨r, hr, hsupplier⟩ := List.mem_map.1 (List.contains_iff_mem.1 hfresh)
            obtain ⟨r', hr', hsame⟩ := hkept r hr
            exact List.mem_map.2 ⟨r', hr', hsame.trans hsupplier⟩
        | false =>
            have hdraft : draft c h category candidate ∈ (((rankCandidates h offerings).take c.maxPerPart.toNat).filter
                (fun candidate => !(existing.map (·.suggestedSupplier)).contains candidate.supplier)).map
                  (draft c h category) :=
              List.mem_map.2 ⟨candidate, List.mem_filter.2 ⟨hcandidate, by rw [hfresh]; rfl⟩, rfl⟩
            obtain ⟨r, hr, hsupplier⟩ := hplanned _ hdraft
            exact List.mem_map.2 ⟨r, hr, hsupplier⟩
      rw [List.contains_iff_mem.2 hmem]
      exact Bool.false_ne_true

end Suggestion

namespace Store

/-- Offerings come from the inventory alone. -/
theorem categoryOfferings_congr {s t : Store} (hinventory : t.inventory = s.inventory) (category : UInt64) :
    t.categoryOfferings category = s.categoryOfferings category := by
  have hlinks : t.links = s.links := congrArg Inventory.links hinventory
  have hactive : t.isActive = s.isActive := by
    funext supplier
    exact congrArg (fun i : Inventory => (i.suppliers.find? supplier.value.toNat).any (·.active)) hinventory
  have hcategory : t.isInCategory category = s.isInCategory category := by
    funext part
    exact congrArg (fun i : Inventory =>
      ((i.parts.find? part.value.toNat).bind (·.category)).any (fun c => c.id = category)) hinventory
  simp only [categoryOfferings, hlinks, hactive, hcategory]

/-- A history is that of the part that was asked for. -/
theorem id_of_partHistory {s : Store} {id : PartId} {h : PartHistory} (hhistory : s.partHistory id = .ok h) :
    h.part.id = id := by
  unfold partHistory at hhistory
  split at hhistory
  · cases hhistory
  · rename_i part hfind
    cases hhistory
    exact PartId.toNat_inj.1 (Roster.find?_eq_some_iff.1 hfind).2

/-- The store with one more suggestion. -/
def suggest (s : Store) (d : RecommendationDraft) : Store :=
  { s with recommendations := s.recommendations.insert (.ofDraft ⟨nextNumber s.recommendations⟩ d) }

variable {s : Store} {d : RecommendationDraft} {drafts : List RecommendationDraft} {part : PartId}
  {supplier : SupplierId}

theorem isSuggested_iff :
    s.isSuggested part supplier = true ↔ ∃ r ∈ s.recommendationsForPart part, r.suggestedSupplier = supplier := by
  unfold isSuggested recommendationsForPart
  rw [List.any_eq_true]
  constructor
  · rintro ⟨r, hr, hsame⟩
    obtain ⟨hpart, hsupplier⟩ := Bool.and_eq_true_iff.1 hsame
    exact ⟨r, List.mem_filter.2 ⟨hr, hpart⟩, of_decide_eq_true hsupplier⟩
  · rintro ⟨r, hr, hsupplier⟩
    obtain ⟨hr, hpart⟩ := List.mem_filter.1 hr
    exact ⟨r, hr, Bool.and_eq_true_iff.2 ⟨hpart, decide_eq_true hsupplier⟩⟩

theorem isSuggested_suggest
    (hfresh : s.isSuggested part supplier = false) (hother : ¬ (d.part = part ∧ d.suggestedSupplier = supplier)) :
    (s.suggest d).isSuggested part supplier = false := by
  refine List.any_eq_false.2 fun r hr => ?_
  rcases Roster.mem_insert_iff.1 hr with rfl | ⟨hr, -⟩
  · rw [Bool.and_eq_true]
    exact fun hsame => hother ⟨of_decide_eq_true hsame.1, of_decide_eq_true hsame.2⟩
  · exact List.any_eq_false.1 hfresh r hr

theorem perform_insertRecommendation (hcheck : d.check = .ok ())
    (hfresh : s.isSuggested d.part d.suggestedSupplier = false) :
    s.perform (.insertRecommendation d) =
      .ok (.ofDraft ⟨nextNumber s.recommendations⟩ d, s.suggest d) := by
  simp only [perform, insertRecommendation, hcheck, hfresh]
  rfl

/-- The suggestions that drafts come to be stored as, one after the other. -/
def suggestions (s : Store) : List RecommendationDraft → List Recommendation
  | [] => []
  | d :: ds => .ofDraft ⟨nextNumber s.recommendations⟩ d :: (s.suggest d).suggestions ds

/-- There is a number for each of these suggestions, one after the other. -/
def suggestsAll (s : Store) : List RecommendationDraft → Bool
  | [] => true
  | d :: ds => hasNext s.recommendations && (s.suggest d).suggestsAll ds

/-- The store with as many of these suggestions as there are numbers for. -/
def suggestMost (s : Store) : List RecommendationDraft → Store
  | [] => s
  | d :: ds => if hasNext s.recommendations then (s.suggest d).suggestMost ds else s

@[simp] theorem length_suggestions (s : Store) (drafts : List RecommendationDraft) :
    (s.suggestions drafts).length = drafts.length := by
  induction drafts generalizing s with
  | nil => rfl
  | cons d ds ih => simp [suggestions, ih]

/-- The suggestions say what their drafts say. -/
theorem map_draft_suggestions (s : Store) (drafts : List RecommendationDraft) :
    (s.suggestions drafts).map (·.draft) = drafts := by
  induction drafts generalizing s with
  | nil => rfl
  | cons d ds ih => rw [suggestions, List.map_cons, ih, Recommendation.draft_ofDraft]

/-- Suggestions come in under next numbers. -/
theorem numbered_suggestions (hall : s.suggestsAll drafts = true) :
    Numbered s.recommendations (s.suggestions drafts) (drafts.foldl suggest s).recommendations := by
  induction drafts generalizing s with
  | nil => exact .nil _
  | cons d ds ih =>
      obtain ⟨hnext, hrest⟩ := Bool.and_eq_true_iff.1 hall
      exact .cons hnext rfl (ih hrest)

/-- There is a number for each of them if there is room for so many above every stored one. -/
theorem suggestsAll_iff : s.suggestsAll drafts = true ↔ s.recommendations.HasRoom drafts.length := by
  induction drafts generalizing s with
  | nil => exact iff_of_true rfl (.zero fun r _ => r.id.value.toNat_lt)
  | cons d ds ih =>
      rw [suggestsAll, Bool.and_eq_true, ih, List.length_cons]
      exact (Roster.HasRoom.succ_iff rfl).symm

/-- Adding suggestions changes nothing else. -/
theorem foldl_suggest (s : Store) (drafts : List RecommendationDraft) :
    drafts.foldl suggest s = { s with recommendations := (drafts.foldl suggest s).recommendations } := by
  induction drafts generalizing s with
  | nil => rfl
  | cons d ds ih =>
      rw [List.foldl_cons]
      exact ih (s.suggest d)

/-- Adding as many as there are numbers for changes nothing else, either. -/
theorem suggestMost_eq (s : Store) (drafts : List RecommendationDraft) :
    s.suggestMost drafts = { s with recommendations := (s.suggestMost drafts).recommendations } := by
  induction drafts generalizing s with
  | nil => rfl
  | cons d ds ih =>
      rw [suggestMost]
      split
      · exact ih (s.suggest d)
      · rfl

/-- Suggestions that stand behind the others are there, and none of the others is lost. -/
theorem isSuggested_foldl_suggest (hrows : (drafts.foldl suggest s).recommendations.rows =
      s.recommendations.rows ++ s.suggestions drafts) (part : PartId) (supplier : SupplierId) :
    (drafts.foldl suggest s).isSuggested part supplier = true ↔
      s.isSuggested part supplier = true ∨ ∃ d ∈ drafts, d.part = part ∧ d.suggestedSupplier = supplier := by
  have hadded : (s.suggestions drafts).any (fun r => r.part = part && r.suggestedSupplier = supplier) =
      drafts.any (fun d => d.part = part && d.suggestedSupplier = supplier) := by
    have hsays := congrArg (List.any · fun d => d.part = part && d.suggestedSupplier = supplier)
      (s.map_draft_suggestions drafts)
    rwa [List.any_map] at hsays
  unfold isSuggested
  rw [hrows, List.any_append, Bool.or_eq_true, hadded, List.any_eq_true (l := drafts)]
  simp only [Bool.and_eq_true, decide_eq_true_eq]

end Store

namespace Suggestion

open Store

variable {c : RecommendationConfig} {record : PartRisk} {h : PartHistory} {category : PartCategory}
  {s : Store} {d : RecommendationDraft}

/-- Drafts with different suppliers, none of which is suggested yet, are stored one after the other, as long as there
are numbers for them. -/
theorem insertAll_run {drafts : List RecommendationDraft} {s : Store}
    (hcheck : ∀ d ∈ drafts, d.check = .ok ())
    (hfresh : ∀ d ∈ drafts, s.isSuggested d.part d.suggestedSupplier = false)
    (hdistinct : drafts.Pairwise (fun d d' => d.suggestedSupplier ≠ d'.suggestedSupplier)) :
    (insertAll drafts).run (.plain s) =
      if s.suggestsAll drafts then (.ok (s.suggestions drafts), .plain (drafts.foldl Store.suggest s))
      else (.error .word, .plain (s.suggestMost drafts)) := by
  induction drafts generalizing s with
  | nil => rfl
  | cons d ds ih =>
      obtain ⟨hfirst, hrest⟩ := List.pairwise_cons.1 hdistinct
      have hperform := Store.perform_insertRecommendation (hcheck d (by simp)) (hfresh d (by simp))
      have hrun := ih (s := s.suggest d) (fun d' hd' => hcheck d' (by simp [hd']))
        (fun d' hd' => Store.isSuggested_suggest (hfresh d' (by simp [hd'])) fun h => hfirst d' hd' h.2) hrest
      show ((Script.attempt (.insertRecommendation d)) >>= _).run (.plain s) = _
      rw [Store.suggestsAll, Store.suggestMost]
      cases hnext : Store.hasNext s.recommendations with
      | true =>
          have hroom : (FaultyStore.plain s).hasRoom (.insertRecommendation d) = true :=
            FaultyStore.hasRoom_of_hasNumberFor rfl hnext
          have hattempt : (Script.attempt (.insertRecommendation d)).run (.plain s) =
              (.ok (.ok (.ofDraft ⟨Store.nextNumber s.recommendations⟩ d)), .plain (s.suggest d)) := by
            rw [Script.attempt, Script.run_call hroom, FaultyStore.perform_plain, hperform]
            rfl
          rw [Script.run_bind_of_ok hattempt, if_pos rfl]
          show (insertAll ds >>= _).run _ = _
          rw [Script.run_bind, hrun, Bool.true_and]
          cases (s.suggest d).suggestsAll ds <;> rfl
      | false =>
          have hroom : ¬ (FaultyStore.plain s).hasRoom (.insertRecommendation d) = true := by
            refine FaultyStore.not_hasRoom_iff.2 fun _ => ⟨hnext, .ofDraft ⟨Store.nextNumber s.recommendations⟩ d, ?_⟩
            rw [FaultyStore.perform_plain, hperform]
          have hattempt : (Script.attempt (.insertRecommendation d)).run (.plain s) = (.error .word, .plain s) :=
            Script.run_call_of_full hroom _
          rw [Script.run_bind_of_error hattempt]
          rfl

/-- What is planned for a part in a store. -/
def planned (s : Store) (c : RecommendationConfig) (h : PartHistory) (category : PartCategory) :
    List RecommendationDraft :=
  plan c h (s.categoryOfferings category.id) (s.recommendationsForPart h.part.id)

theorem of_mem_planned (hmem : d ∈ planned s c h category) :
    d.part = h.part.id ∧ d.check = .ok () ∧ s.isSuggested d.part d.suggestedSupplier = false := by
  obtain ⟨hpart, hcheck, hfresh⟩ := of_mem_plan hmem
  refine ⟨hpart, hcheck, Bool.eq_false_iff.2 fun hsuggested => ?_⟩
  obtain ⟨r, hr, hsame⟩ := isSuggested_iff.1 hsuggested
  exact hfresh r (hpart ▸ hr) hsame

/-- For an eligible part with a category all that is planned gets stored, as long as there are numbers. -/
theorem generate_of_eligible (heligible : record.isEligible = true) (hcategory : h.part.category = some category) :
    (generate c record h).run (.plain s) =
      if s.suggestsAll (planned s c h category) then
        (.ok (s.suggestions (planned s c h category)), .plain ((planned s c h category).foldl Store.suggest s))
      else (.error .word, .plain (s.suggestMost (planned s c h category))) := by
  have hinsert := insertAll_run (fun d hd => (of_mem_planned hd).2.1) (fun d hd => (of_mem_planned hd).2.2)
    (pairwise_plan : (planned s c h category).Pairwise _)
  unfold generate
  simp only [heligible, hcategory]
  rw [Script.run_bind, Script.run_ask rfl, FaultyStore.perform_plain]
  dsimp only [Store.perform]
  rw [Script.run_bind, Script.run_ask rfl, FaultyStore.perform_plain]
  exact hinsert

/-- For any other part nothing is asked of the store. -/
theorem generate_of_ineligible (hnot : record.isEligible = false ∨ h.part.category = none) (f : FaultyStore) :
    (generate c record h).run f = (.ok [], f) := by
  unfold generate
  rcases hnot with hineligible | hnone
  · simp only [hineligible]
    rfl
  · rw [hnone]
    cases record.isEligible <;> rfl

end Suggestion

namespace Engine

variable {e : Engine} {s : Store} {id : PartId}

/-- The suggestions that recommending adds for a part. -/
def drafts (e : Engine) (s : Store) (id : PartId) : List RecommendationDraft :=
  match s.partHistory id, s.riskOrFresh 0 (.part id) with
  | .ok h, .part record =>
      match record.isEligible, h.part.category with
      | true, some category =>
          Suggestion.plan e.config.recommendations h (s.categoryOfferings category.id)
            (s.recommendationsForPart h.part.id)
      | _, _ => []
  | _, _ => []

theorem part_of_mem_drafts {d : RecommendationDraft} (hmem : d ∈ e.drafts s id) : d.part = id := by
  unfold drafts at hmem
  split at hmem
  · rename_i h record hhistory hrecord
    split at hmem
    · exact (Suggestion.of_mem_planned hmem).1.trans (Store.id_of_partHistory hhistory)
    · cases hmem
  · cases hmem

/-- What is planned depends on the inventory, the record of the part and its suggestions. -/
theorem drafts_congr {t : Store} (hinventory : t.inventory = s.inventory)
    (hrisk : t.riskRecord? (.part id) = s.riskRecord? (.part id))
    (hsuggestions : t.recommendationsForPart id = s.recommendationsForPart id) : e.drafts t id = e.drafts s id := by
  unfold drafts Store.riskOrFresh
  rw [Store.partHistory_congr hinventory, hrisk]
  cases hhistory : s.partHistory id with
  | error error => rfl
  | ok h =>
      cases (s.riskRecord? (.part id)).getD (.fresh 0 (.part id)) with
      | supplier record => rfl
      | part record =>
          simp only [Store.id_of_partHistory hhistory, hsuggestions, Store.categoryOfferings_congr hinventory]

/-- Recommending for a part that the inventory knows adds what is planned, after the record has been read, as long as
there are numbers. -/
theorem recommend_of_known (hknown : s.knows (.part id) = true) :
    (e.recommend (.part id)).run (.plain s) =
      if (s.withRisk 0 (.part id)).suggestsAll (e.drafts s id) then
        (.ok { recommendations := (e.drafts s id).length },
          .plain ((e.drafts s id).foldl Store.suggest (s.withRisk 0 (.part id))))
      else (.error .word, .plain ((s.withRisk 0 (.part id)).suggestMost (e.drafts s id))) := by
  obtain ⟨h, record, hhistory, hrecord, hrun⟩ := recommend_run_of_known (e := e) hknown
  have hrecommendations : (s.withRisk 0 (.part id)).recommendations = s.recommendations := by
    rw [Store.withRisk_of_known hknown, hrecord]
    rfl
  have hinventory := s.inventory_withRisk 0 (.part id)
  rw [hrun]
  generalize s.withRisk 0 (.part id) = t at hrecommendations hinventory ⊢
  have hplanned (category : PartCategory) :
      Suggestion.planned t e.config.recommendations h category =
        Suggestion.planned s e.config.recommendations h category := by
    rw [Suggestion.planned, Store.categoryOfferings_congr hinventory, Store.recommendationsForPart, hrecommendations]
    rfl
  unfold drafts suggestFor
  simp only [hhistory, hrecord]
  cases heligible : record.isEligible with
  | false => exact Script.run_bind_of_ok (Suggestion.generate_of_ineligible (.inl heligible) _) _
  | true =>
      cases hsome : h.part.category with
      | none => exact Script.run_bind_of_ok (Suggestion.generate_of_ineligible (.inr hsome) _) _
      | some category =>
          rw [Script.run_bind, Suggestion.generate_of_eligible heligible hsome, hplanned]
          by_cases hall : t.suggestsAll (Suggestion.planned s e.config.recommendations h category) = true
          · rw [if_pos hall]
            refine Eq.trans ?_ (if_pos hall).symm
            dsimp only
            rw [Script.run_pure, Store.length_suggestions]
            rfl
          · rw [if_neg hall]
            exact (if_neg hall).symm

end Engine

end SupplyRisk
