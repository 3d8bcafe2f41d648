import SupplyRisk.Proofs.Engine.Drafts
import SupplyRisk.Store.Snapshot

/-!
# Repeated links

`Store.link` links a supplier to a part once; a snapshot may list a link several times, and loading keeps it so.
`linksOnce` has the links as `Store.link` would have kept them.  Searches find the same in both lists (`SameFinds`), so
whatever takes links for a set comes to the same: candidates (`rankCandidates_congr`) and all that is planned
(`Suggestion.plan_congr`).  Counts of links are not of this kind.
-/

namespace SupplyRisk

/-! ## Lists that differ in repetitions -/

/-- Whatever is searched for, both lists have the same first element of the kind. -/
def SameFinds {α : Type} (l l' : List α) : Prop := ∀ p : α → Bool, l'.find? p = l.find? p

namespace SameFinds

variable {α β : Type} {l l' : List α} {a : α}

theorem filter (h : SameFinds l l') (p : α → Bool) : SameFinds (l.filter p) (l'.filter p) := by
  intro q
  rw [List.find?_filter, List.find?_filter, h]

theorem map (h : SameFinds l l') (g : α → β) : SameFinds (l.map g) (l'.map g) := by
  intro q
  rw [List.find?_map, List.find?_map, h]

theorem head? (h : SameFinds l l') : l'.head? = l.head? := by
  have hfirst (m : List α) : m.head? = m.find? fun _ => true := by cases m <;> rfl
  rw [hfirst, hfirst, h]

variable [DecidableEq α]

theorem mem_iff (h : SameFinds l l') : a ∈ l' ↔ a ∈ l := by
  have hsearch (m : List α) : a ∈ m ↔ (m.find? (fun b => b = a)).isSome = true := by simp
  rw [hsearch, hsearch, h]

theorem contains (h : SameFinds l l') (a : α) : l'.contains a = l.contains a := by
  rw [Bool.eq_iff_iff, List.contains_iff_mem, List.contains_iff_mem, h.mem_iff]

end SameFinds

namespace Roster

variable {α : Type} [Ranked α] {rows rows' : List α}

theorem mem_ofList (hrank : Function.Injective (Ranked.rank : α → Nat)) {a : α} :
    a ∈ (ofList rows).rows ↔ a ∈ rows := by
  refine ⟨mem_of_mem_ofList, fun hmem => ?_⟩
  cases hfind : (ofList rows).find? (Ranked.rank a) with
  | none =>
      rw [find?_ofList, List.find?_eq_none] at hfind
      exact absurd (beq_self_eq_true _) (hfind a (List.mem_reverse.2 hmem))
  | some b =>
      obtain ⟨hb, hsame⟩ := find?_eq_some_iff.1 hfind
      rwa [← hrank hsame]

/-- A roster of numbers does not depend on how often they were listed. -/
theorem ofList_congr [DecidableEq α] (hrank : Function.Injective (Ranked.rank : α → Nat)) (h : SameFinds rows rows') :
    ofList rows' = ofList rows := by
  refine ext_mem fun a => ?_
  rw [mem_ofList hrank, mem_ofList hrank, h.mem_iff]

end Roster

theorem SupplierId.rank_injective : Function.Injective (Ranked.rank : SupplierId → Nat) :=
  fun _ _ hsame => SupplierId.toNat_inj.1 hsame

theorem PartId.rank_injective : Function.Injective (Ranked.rank : PartId → Nat) :=
  fun _ _ hsame => PartId.toNat_inj.1 hsame

/-! ## Links -/

/-- The links as linking one after the other keeps them. -/
def linksOnce (links : List SupplierPart) : List SupplierPart := (links.foldl Store.link Store.empty).links

def Snapshot.linkedOnce (s : Snapshot) : Snapshot := { s with links := linksOnce s.links }

namespace Store

def linkedOnce (s : Store) : Store := { s with links := linksOnce s.links }

theorem ofSnapshot_linkedOnce (s : Snapshot) : ofSnapshot s.linkedOnce = (ofSnapshot s).linkedOnce := rfl

/-- A link that is there already is no news to a search. -/
theorem sameFinds_foldl_link (links : List SupplierPart) (s : Store) :
    SameFinds (s.links ++ links) (links.foldl link s).links := by
  induction links generalizing s with
  | nil =>
      intro p
      rw [List.append_nil, List.foldl_nil]
  | cons l ls ih =>
      intro p
      rw [List.foldl_cons, ih]
      unfold link
      split
      · rename_i hmem
        rw [List.find?_append, List.find?_append]
        cases hfind : s.links.find? p with
        | some first => rfl
        | none =>
            have hl : p l = false := by simpa using List.find?_eq_none.1 hfind l hmem
            rw [List.find?_cons_of_neg (by simp [hl])]
      · rw [List.append_assoc]
        rfl

theorem sameFinds_linksOnce (links : List SupplierPart) : SameFinds links (linksOnce links) :=
  sameFinds_foldl_link links empty

/-- Calls about open alerts, and of an event, see no links. -/
theorem perform_linkedOnce {c : StoreCall} (hc : c.onAlerts = true ∨ ∃ draft, c = .insertEvent draft) (s : Store) :
    s.linkedOnce.perform c = (s.perform c).map (fun result => (result.1, result.2.linkedOnce)) := by
  have hopen (entity : EntityRef) : s.linkedOnce.openAlert entity = s.openAlert entity := rfl
  have hrival (a : Alert) : s.linkedOnce.openRival? a = s.openRival? a := rfl
  have halerts : s.linkedOnce.alerts = s.alerts := rfl
  rcases hc with hc | ⟨draft, rfl⟩
  · cases c with
    | openAlert entity => rfl
    | insertAlert draft =>
        simp only [perform, insertAlert, hopen]
        cases s.openAlert draft.entity <;> rfl
    | updateAlert alert =>
        simp only [perform, updateAlert, halerts, hrival]
        cases s.alerts.contains alert.id.value.toNat <;> cases s.openRival? alert <;> rfl
    | _ => cases hc
  · rfl

end Store

/-- A script that sees no links does the same without the repeated ones. -/
theorem Script.run_linkedOnce {α : Type} {x : Script α}
    (hx : x.Only (fun c => c.onAlerts = true ∨ ∃ draft, c = .insertEvent draft)) (s : Store) :
    x.run (.plain s.linkedOnce) = ((x.run (.plain s)).1, .plain (x.run (.plain s)).2.store.linkedOnce) := by
  induction x generalizing s with
  | done a => rfl
  | stop cause => rfl
  | call c next ih =>
      have hnone : c.savedRisk? = none := by
        rcases hx.1 with hc | ⟨draft, rfl⟩
        · cases c <;> first | rfl | cases hc
        · rfl
      have hnumber : s.linkedOnce.hasNumberFor c = s.hasNumberFor c := by cases c <;> rfl
      have hperform := Store.perform_linkedOnce hx.1 s
      have hplain : (FaultyStore.plain s.linkedOnce).perform c =
          (((FaultyStore.plain s).perform c).1, .plain ((FaultyStore.plain s).perform c).2.store.linkedOnce) := by
        rw [FaultyStore.perform_plain, FaultyStore.perform_plain, hperform]
        cases s.perform c <;> rfl
      have hroom : (FaultyStore.plain s.linkedOnce).hasRoom c = (FaultyStore.plain s).hasRoom c := by
        rw [FaultyStore.hasRoom_of_unsaved hnone, FaultyStore.hasRoom_of_unsaved hnone, hplain]
        exact congrArg (· || _) hnumber
      by_cases hfits : (FaultyStore.plain s).hasRoom c = true
      · have hstays : ((FaultyStore.plain s).perform c).2 = .plain ((FaultyStore.plain s).perform c).2.store := by
          rw [FaultyStore.perform_plain]
          cases s.perform c <;> rfl
        rw [run_call hfits, run_call (hroom.trans hfits), hplain, ih _ (hx.2 _), ← hstays]
      · have hfull : ¬ (FaultyStore.plain s.linkedOnce).hasRoom c = true := by rwa [hroom]
        rw [run_call_of_full hfits, run_call_of_full hfull, FaultyStore.giveUp_of_unsaved hnone,
          FaultyStore.giveUp_of_unsaved hnone]
        rfl

namespace Store

/-! ## Histories -/

/-- The number of links of a supplier, which its history takes for a number of parts. -/
def linkCount (s : Store) (id : SupplierId) : Nat := (s.links.filter (fun l => l.supplier = id)).length

/-- The active suppliers of a part, as often as they are linked to it. -/
def sources (s : Store) (id : PartId) : List SupplierId :=
  ((s.links.filter (fun l => l.part = id)).map (·.supplier)).filter s.isActive

end Store

/-- The histories are of the same part and differ in repetitions of suppliers only. -/
structure PartHistory.Repeats (h h' : PartHistory) : Prop where
  same : h' = { h with suppliers := h'.suppliers, linkedSuppliers := h'.linkedSuppliers }
  suppliers : SameFinds h.suppliers h'.suppliers
  linked : SameFinds h.linkedSuppliers h'.linkedSuppliers

namespace Store

variable {s : Store}

@[simp] theorem knows_linkedOnce (s : Store) (z : EntityRef) : s.linkedOnce.knows z = s.knows z := by
  cases z <;> rfl

/-- A history with and without repetitions differs in what it takes for the parts of the supplier. -/
theorem supplierHistory_linkedOnce {id : SupplierId} {h : SupplierHistory} (hread : s.supplierHistory id = .ok h) :
    h.supplier ∈ s.suppliers.rows ∧ h.supplier.id = id ∧ h.partsSupplied.length = s.linkCount id ∧
      ∃ parts, s.linkedOnce.supplierHistory id = .ok { h with partsSupplied := parts } ∧
        parts.length = s.linkedOnce.linkCount id := by
  unfold supplierHistory at hread
  split at hread
  · cases hread
  · rename_i supplier hfind
    cases hread
    obtain ⟨hmem, hrank⟩ := Roster.find?_eq_some_iff.1 hfind
    refine ⟨hmem, SupplierId.toNat_inj.1 hrank, List.length_map _,
      ((linksOnce s.links).filter (fun l => l.supplier = id)).map (·.part), ?_, List.length_map _⟩
    simp only [supplierHistory, linkedOnce, hfind]

theorem partHistory_linkedOnce {id : PartId} {h : PartHistory} (hread : s.partHistory id = .ok h) :
    h.part ∈ s.parts.rows ∧ h.part.id = id ∧ h.suppliers = s.sources id ∧
      ∃ h', s.linkedOnce.partHistory id = .ok h' ∧ h.Repeats h' ∧ h'.suppliers = s.linkedOnce.sources id := by
  unfold partHistory at hread
  split at hread
  · cases hread
  · rename_i part hfind
    cases hread
    obtain ⟨hmem, hrank⟩ := Roster.find?_eq_some_iff.1 hfind
    have hlinked := ((sameFinds_linksOnce s.links).filter fun l => decide (l.part = id)).map (·.supplier)
    let h' : PartHistory := {
      part
      stockItems := s.stockItems.filter (fun item => item.part = id)
      orderLines := s.orderLines.filter (fun line => line.part = id)
      suppliers := s.linkedOnce.sources id
      linkedSuppliers := ((linksOnce s.links).filter (fun l => l.part = id)).map (·.supplier) }
    have hread' : s.linkedOnce.partHistory id = .ok h' := by
      simp only [partHistory, linkedOnce, hfind]
      rfl
    exact ⟨hmem, PartId.toNat_inj.1 hrank, rfl, h', hread', ⟨rfl, hlinked.filter s.isActive, hlinked⟩, rfl⟩

theorem putRisk_linkedOnce (s : Store) (r : RiskRecord) : s.linkedOnce.putRisk r = (s.putRisk r).linkedOnce := by
  cases r <;> rfl

theorem withRisk_linkedOnce (s : Store) (threshold : UInt8) (z : EntityRef) :
    s.linkedOnce.withRisk threshold z = (s.withRisk threshold z).linkedOnce := by
  have hfor : s.linkedOnce.riskOrFresh threshold z = s.riskOrFresh threshold z := by cases z <;> rfl
  unfold withRisk
  rw [s.knows_linkedOnce z, hfor]
  split
  · exact s.putRisk_linkedOnce _
  · rfl

theorem suggested_linkedOnce (s : Store) (drafts : List RecommendationDraft) :
    drafts.foldl suggest s.linkedOnce = (drafts.foldl suggest s).linkedOnce ∧
      s.linkedOnce.suggestMost drafts = (s.suggestMost drafts).linkedOnce := by
  induction drafts generalizing s with
  | nil => exact ⟨rfl, rfl⟩
  | cons d ds ih =>
      obtain ⟨hall, hmost⟩ := ih (s.suggest d)
      have hnext : hasNext s.linkedOnce.recommendations = hasNext s.recommendations := rfl
      refine ⟨hall, ?_⟩
      rw [suggestMost, suggestMost, hnext]
      split
      · exact hmost
      · rfl

theorem categoryOfferings_linkedOnce (s : Store) (category : UInt64) :
    SameFinds (s.categoryOfferings category) (s.linkedOnce.categoryOfferings category) :=
  (sameFinds_linksOnce s.links).filter _

end Store

/-! ## Suggestions -/

section Suggestions

variable {h h' : PartHistory} {offerings offerings' : List SupplierPart}

/-- Candidates are ranked by sets of parts. -/
theorem rankCandidates_congr (hrepeats : h.Repeats h') (hofferings : SameFinds offerings offerings') :
    rankCandidates h' offerings' = rankCandidates h offerings := by
  have hrelevant : SameFinds (relevantOfferings h offerings) (relevantOfferings h' offerings') := by
    have hkeeps : relevantOfferings h' offerings' =
        offerings'.filter (fun o => o.part ≠ h.part.id && !h.linkedSuppliers.contains o.supplier) := by
      refine List.filter_congr fun o _ => ?_
      rw [hrepeats.linked.contains, hrepeats.same]
    rw [hkeeps]
    exact hofferings.filter _
  have hsuppliers : (Roster.ofList ((relevantOfferings h' offerings').map (·.supplier)) : Roster SupplierId) =
      .ofList ((relevantOfferings h offerings).map (·.supplier)) :=
    Roster.ofList_congr SupplierId.rank_injective (hrelevant.map _)
  have hoffered (supplier : SupplierId) : partsOffered (relevantOfferings h' offerings') supplier =
      partsOffered (relevantOfferings h offerings) supplier :=
    Roster.ofList_congr PartId.rank_injective ((hrelevant.filter _).map _)
  simp only [rankCandidates, hsuppliers, hoffered]

/-- What is planned does not depend on repetitions. -/
theorem Suggestion.plan_congr (c : RecommendationConfig) (hrepeats : h.Repeats h')
    (hofferings : SameFinds offerings offerings') (existing : List Recommendation) :
    plan c h' offerings' existing = plan c h offerings existing := by
  have hpart : h'.part = h.part := by rw [hrepeats.same]
  have hdraft (category : PartCategory) : draft c h' category = draft c h category := by
    funext candidate
    simp only [draft, hpart, hrepeats.suppliers.head?]
  simp only [plan, hpart, hdraft, rankCandidates_congr hrepeats hofferings]

end Suggestions

end SupplyRisk
