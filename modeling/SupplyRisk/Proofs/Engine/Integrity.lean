import SupplyRisk.Proofs.Engine.Conduct
import SupplyRisk.Proofs.Store.Reference
import SupplyRisk.Proofs.Suggestion.Ranking

/-!
# Referential integrity

Engines write down numbers that they have read.  A store in which every number refers to something stays such a store
whatever engines are asked for, also at the same time (`FaultyStore.engine_calls_keep_references`), with failing calls
and links to nowhere in it.  Which entities there are does not change, and an event that a script knows of stays where it
is; so what a script has read still holds when it writes (`Discipline.referring`).
-/

namespace SupplyRisk

variable {K : EntityRef → Prop} {f : FaultyStore}

/-! ## What is read -/

namespace Store

variable {s : Store}

theorem Contained.supplierHistory (hs : s.Contained K) {id : SupplierId} {h : SupplierHistory}
    (hread : s.supplierHistory id = .ok h) : K (.supplier id) := by
  refine (hs.knows _).1 ?_
  cases hknows : s.knows (.supplier id) with
  | true => rfl
  | false =>
      rw [supplierHistory_of_unknown hknows] at hread
      cases hread

/-- Active suppliers are suppliers. -/
theorem Contained.of_isActive (hs : s.Contained K) {id : SupplierId} (hactive : s.isActive id = true) :
    K (.supplier id) := by
  refine (hs.knows _).1 (Roster.contains_iff.2 ?_)
  unfold isActive at hactive
  cases hfind : s.suppliers.find? id.value.toNat with
  | none => simp [hfind] at hactive
  | some supplier => exact ⟨supplier, rfl⟩

/-- Links to unknown suppliers do not get into a history. -/
theorem Contained.partHistory (hs : s.Contained K) {id : PartId} {h : PartHistory} (hread : s.partHistory id = .ok h) :
    h.part.id = id ∧ K (.part id) ∧ ∀ supplier ∈ h.suppliers, K (.supplier supplier) := by
  refine ⟨id_of_partHistory hread, (hs.knows _).1 ?_, fun supplier hmem => ?_⟩
  · cases hknows : s.knows (.part id) with
    | true => rfl
    | false =>
        rw [partHistory_of_unknown hknows] at hread
        cases hread
  · unfold Store.partHistory at hread
    split at hread
    · cases hread
    · cases hread
      exact hs.of_isActive (List.mem_filter.1 hmem).2

theorem Contained.categoryOfferings (hs : s.Contained K) {category : UInt64} {o : SupplierPart}
    (hmem : o ∈ s.categoryOfferings category) : K (.supplier o.supplier) := by
  have hoffered := (List.mem_filter.1 hmem).2
  exact hs.of_isActive (Bool.and_eq_true_iff.1 hoffered).1

end Store

/-! ## Single calls -/

namespace Discipline

variable {place : Nat}

/-- Nothing outside of `K` is referred to, and events only come in. -/
def referring (K : EntityRef → Prop) : Discipline where
  Holds := FaultyStore.Contained K
  Step _ f g := f.store.events.Grows RiskEvent.Becomes g.store.events

theorem allows_referring {c : StoreCall} (h : f.Contained K) (hcall : c.RefersWithin K f.store.events) :
    (referring K).Allows place c f where
  made hroom := ⟨FaultyStore.contained_perform h hroom hcall, (FaultyStore.continues_perform hroom).events⟩
  givenUp _ := ⟨FaultyStore.contained_giveUp h c, (f.continues_giveUp c).events⟩

end Discipline

namespace Script

open Discipline

variable {place : Nat}

/-- A call that refers to the right things whatever events there are. -/
theorem assures_within {c : StoreCall} {Q : c.Answer → Prop} (h : f.Contained K)
    (hcall : ∀ events, c.RefersWithin K events)
    (hanswer : ∀ g answer g', g.Contained K → g'.Contained K → (ask c).run g = (.ok answer, g') → Q answer) :
    (ask c).Assures (referring K) place (fun answer _ => Q answer) f := by
  have hallows (g : FaultyStore) (hg : g.Contained K) : (referring K).Allows place c g := allows_referring hg (hcall _)
  refine assures_ask (fun g hg => hallows g (hg.holds h)) (fun g answer g' hg hrun => ?_) fun _ _ _ _ _ hQ => hQ
  obtain ⟨hroom, hperform⟩ := run_ask_eq_ok_iff.1 hrun
  have hafter := ((hallows g (hg.holds h)).made hroom).1
  rw [hperform] at hafter
  exact hanswer g answer g' (hg.holds h) hafter hrun

theorem assures_supplierHistory (h : f.Contained K) (id : SupplierId) :
    (ask (.supplierHistory id)).Assures (referring K) place (fun _ _ => K (.supplier id)) f := by
  refine assures_within (c := .supplierHistory id) h (fun _ => trivial) fun g history g' hg _ hrun => ?_
  obtain ⟨_, hread, -⟩ := map_eq_ok_iff.1 (FaultyStore.perform_eq_ok (perform_of_run_ask hrun))
  exact hg.supplierHistory hread

theorem assures_partHistory (h : f.Contained K) (id : PartId) :
    (ask (.partHistory id)).Assures (referring K) place
      (fun history _ => history.part.id = id ∧ K (.part id) ∧ ∀ supplier ∈ history.suppliers, K (.supplier supplier))
      f := by
  refine assures_within (c := .partHistory id)
    (Q := fun h : PartHistory => h.part.id = id ∧ K (.part id) ∧ ∀ supplier ∈ h.suppliers, K (.supplier supplier))
    h (fun _ => trivial) fun g history g' hg _ hrun => ?_
  obtain ⟨found, hread, hanswer⟩ := map_eq_ok_iff.1 (FaultyStore.perform_eq_ok (perform_of_run_ask hrun))
  rw [← (Prod.mk.inj hanswer).1]
  exact hg.partHistory hread

theorem assures_supplierRisk (h : f.Contained K) (id : SupplierId) (threshold : UInt8) :
    (ask (.supplierRisk id threshold)).Assures (referring K) place
      (fun record _ => record.supplier = id ∧ K (.supplier id)) f := by
  refine assures_within (c := .supplierRisk id threshold)
    (Q := fun record : SupplierRisk => record.supplier = id ∧ K (.supplier id)) h (fun _ => trivial)
    fun g record g' _ hg' hrun => ?_
  have hstored := riskRecord?_of_supplierRisk hrun
  have hid : record.supplier = id := EntityRef.supplier.inj (Store.entity_of_riskRecord? hstored)
  exact ⟨hid, hid ▸ hg'.refers.entity_of_stored hstored⟩

theorem assures_partRisk (h : f.Contained K) (id : PartId) :
    (ask (.partRisk id)).Assures (referring K) place (fun record _ => record.part = id) f := by
  refine assures_within (c := .partRisk id) (Q := fun record : PartRisk => record.part = id) h (fun _ => trivial)
    fun g record g' _ _ hrun => ?_
  exact EntityRef.part.inj (Store.entity_of_riskRecord? (riskRecord?_of_partRisk hrun))

theorem assures_saveSupplierRisk {r : SupplierRisk} (h : f.Contained K) (hrecord : K (.supplier r.supplier)) :
    (ask (.saveSupplierRisk r)).Assures (referring K) place (fun saved _ => saved.supplier = r.supplier) f := by
  refine assures_within (c := .saveSupplierRisk r) (Q := fun saved : SupplierRisk => saved.supplier = r.supplier) h
    (fun _ => hrecord) fun g saved g' _ _ hrun => ?_
  obtain ⟨-, -, rfl, -⟩ := Store.saveSupplierRisk_eq_ok_iff.1 (FaultyStore.perform_eq_ok (perform_of_run_ask hrun))
  rfl

theorem assures_savePartRisk {r : PartRisk} (h : f.Contained K) (hrecord : K (.part r.part)) :
    (ask (.savePartRisk r)).Assures (referring K) place (fun saved _ => saved.part = r.part) f := by
  refine assures_within (c := .savePartRisk r) (Q := fun saved : PartRisk => saved.part = r.part) h (fun _ => hrecord)
    fun g saved g' _ _ hrun => ?_
  obtain ⟨-, -, rfl, -⟩ := Store.savePartRisk_eq_ok_iff.1 (FaultyStore.perform_eq_ok (perform_of_run_ask hrun))
  rfl

end Script

/-! ## Alerts and their events -/

/-- The alert is one of the entity, and its event is stored and affects the entity. -/
structure Alert.Explains (entity : EntityRef) (a : Alert) (f : FaultyStore) : Prop where
  entity : a.entity = entity
  explained : a.ExplainedBy f.store.events

/-- An event about an entity is logged before the entity's alert refers to it. -/
theorem Discipline.referring_handles {place : Nat} {entity : EntityRef} {draft : EventDraft} (hentity : K entity)
    (haffects : draft.Affects entity) (hdraft : ∀ z, draft.Affects z → K z) :
    (referring K).Handles place entity draft (Alert.Explains entity) where
  stays a other g h hgrows hfit := ⟨hfit.entity, hfit.explained.grow hgrows⟩
  same a b g hsame hevent hfit := by
    refine ⟨hsame.entity.trans hfit.entity, fun id hid => ?_⟩
    rw [hsame.entity]
    exact hfit.explained id (hevent ▸ hid)
  reads g hg := allows_referring hg trivial
  found a g h hg hrun := by
    obtain ⟨hopen, hstore⟩ := Script.openAlert_of_run_ask hrun
    obtain ⟨hmem, -, hof⟩ := Store.of_openAlert hopen
    exact ⟨hof, hstore ▸ hg.refers.alertEvents a hmem⟩
  opens d g hd hg := allows_referring (c := .insertAlert d) hg (show K d.entity from hd ▸ hentity)
  opened d a g h hd hg hrun := by
    obtain ⟨rfl, -⟩ := Script.insertAlert_of_run_ask hrun
    exact ⟨hd, fun id hid => nomatch hid⟩
  writes a g hg hfit := allows_referring (c := .updateAlert a) hg ⟨hfit.entity ▸ hentity, hfit.explained⟩
  logs g hg := allows_referring (c := .insertEvent draft) hg hdraft
  logged event a g h hg hrun hfit := by
    obtain ⟨rfl, hstore⟩ := Script.insertEvent_of_run_ask hrun
    refine ⟨hfit.entity, fun id hid => ?_⟩
    cases hid
    rw [← hstore]
    refine ⟨_, mem_insertRow_self _ _, rfl, RiskEvent.affects_ofDraft.2 ?_⟩
    exact hfit.entity.symm ▸ haffects

/-! ## Work on entities -/

namespace Engine

open Script Discipline

variable {e : Engine} {place : Nat}

/-- An attempt at a supplier writes about this supplier only. -/
theorem obeys_assessSupplier (e : Engine) (id : SupplierId) : (e.assessSupplier id).Obeys (referring K) place := by
  intro f h
  simp only [assessSupplier, saveSupplierAssessment, bind_assoc, pure_bind]
  refine (assures_supplierHistory h id).bind fun history f₁ h₁ hknown => ?_
  have h₁ := h₁.holds h
  refine (assures_supplierRisk h₁ id _).bind fun record f₂ h₂ hrecord => ?_
  have h₂ := h₂.holds h₁
  refine (assures_inCalendar (Q := fun _ _ => True) fun _ _ _ _ => trivial).bind fun start f₃ h₃ _ => ?_
  have h₃ := h₃.holds h₂
  refine (assures_inCalendar (Q := fun assessed _ => assessed.supplier = id) fun assessed hassessed _ _ => ?_).bind
    fun assessed f₄ h₄ hassessed => ?_
  · obtain ⟨next, -, rfl⟩ := Option.map_eq_some_iff.1 hassessed
    exact hrecord.1
  have h₄ := h₄.holds h₃
  refine (assures_saveSupplierRisk h₄ (hassessed ▸ hknown)).bind fun saved f₅ h₅ hsaved => ?_
  have hsupplier : saved.supplier = id := hsaved.trans hassessed
  -- The event is about the supplier alone.
  have hentity : K (.supplier saved.supplier) := hsupplier ▸ hknown
  refine (referring_handles hentity (mem_insertRow_self _ _) fun z haffects => ?_).notice (h₅.holds h₄) e.now _ _
  cases z with
  | supplier other =>
      have hother : other = saved.supplier := List.mem_singleton.1 haffects
      rwa [hother, hsupplier]
  | part other => cases haffects

/-- An attempt at a part writes about this part, and about its active suppliers. -/
theorem obeys_assessPart (e : Engine) (id : PartId) : (e.assessPart id).Obeys (referring K) place := by
  intro f h
  simp only [assessPart, savePartAssessment, bind_assoc]
  refine (assures_partHistory h id).bind fun history f₁ h₁ hhistory => ?_
  obtain ⟨-, hknown, hsuppliers⟩ := hhistory
  have h₁ := h₁.holds h
  refine (assures_partRisk h₁ id).bind fun record f₂ h₂ hrecord => ?_
  have h₂ := h₂.holds h₁
  refine (assures_inCalendar (Q := fun _ _ => True) fun _ _ _ _ => trivial).bind fun start f₃ h₃ _ => ?_
  have h₃ := h₃.holds h₂
  have hassessed (assessment : PartAssessment) : K (.part (record.assess assessment e.today).part) :=
    (congrArg (fun i => K (.part i)) hrecord).mpr hknown
  refine (assures_savePartRisk h₃ (hassessed _)).bind fun saved f₄ h₄ hsaved => ?_
  have hpart : saved.part = id := hsaved.trans hrecord
  have hentity : K (.part saved.part) := hpart ▸ hknown
  refine (referring_handles hentity (mem_insertRow_self _ _) fun z haffects => ?_).notice (h₄.holds h₃) e.now _ _
  cases z with
  | supplier supplier => exact hsuppliers supplier (Roster.mem_of_mem_ofList haffects)
  | part other =>
      have hother : other = saved.part := List.mem_singleton.1 haffects
      rwa [hother, hpart]

end Engine

/-! ## Suggestions -/

namespace Suggestion

/-- Candidates come from the offerings. -/
theorem within_of_mem_plan {c : RecommendationConfig} {h : PartHistory} {offerings : List SupplierPart}
    {existing : List Recommendation} {d : RecommendationDraft} (hpart : K (.part h.part.id))
    (hsuppliers : ∀ supplier ∈ h.suppliers, K (.supplier supplier))
    (hofferings : ∀ o ∈ offerings, K (.supplier o.supplier))
    (hmem : d ∈ plan c h offerings existing) : Within K d.part d.suggestedSupplier d.primarySupplier := by
  unfold plan at hmem
  split at hmem
  · cases hmem
  · obtain ⟨candidate, hfresh, rfl⟩ := List.mem_map.1 hmem
    have hbest := List.mem_of_mem_take (List.mem_filter.1 hfresh).1
    obtain ⟨-, ⟨o, ho, hsupplier, -⟩, -⟩ := mem_rankCandidates_iff.1 hbest
    have hsuggested : K (.supplier candidate.supplier) := hsupplier ▸ hofferings o ho
    exact ⟨hpart, hsuggested, fun id hid => hsuppliers id (List.mem_of_head? hid)⟩

theorem obeys_insertAll {place : Nat} {drafts : List RecommendationDraft}
    (hdrafts : ∀ d ∈ drafts, Within K d.part d.suggestedSupplier d.primarySupplier) :
    (insertAll drafts).Obeys (Discipline.referring K) place := by
  have honly (ds : List RecommendationDraft) (hds : ∀ d ∈ ds, d ∈ drafts) :
      (insertAll ds).Only (fun c => ∃ d ∈ drafts, c = .insertRecommendation d) := by
    induction ds with
    | nil => exact Script.only_pure _
    | cons d ds ih =>
        have hrest := ih fun d' hd' => hds d' (List.mem_cons_of_mem _ hd')
        refine Script.only_bind (Script.only_attempt ⟨d, hds d List.mem_cons_self, rfl⟩) fun answer => ?_
        split
        · exact Script.only_bind hrest fun _ => Script.only_pure _
        · exact hrest
        · exact Script.only_fail _
  refine (honly drafts fun _ hd => hd).obeys fun c hc f hf => ?_
  obtain ⟨d, hd, rfl⟩ := hc
  exact Discipline.allows_referring hf (hdrafts d hd)

end Suggestion

namespace Engine

open Script Discipline

variable {e : Engine} {place : Nat}

/-- What is suggested comes from active suppliers. -/
theorem obeys_suggest (e : Engine) (id : PartId) : (e.suggest id).Obeys (referring K) place := by
  intro f h
  refine (assures_partHistory h id).bind fun history f₁ h₁ hhistory => ?_
  obtain ⟨hpart, hknown, hsuppliers⟩ := hhistory
  have h₁ := h₁.holds h
  refine (assures_partRisk h₁ id).bind fun record f₂ h₂ _ => ?_
  have h₂ := h₂.holds h₁
  unfold Suggestion.generate
  split
  · rename_i category heligible hcategory
    have hofferings : (ask (.categoryOfferings category.id)).Assures (referring K) place
        (fun offerings _ => ∀ o ∈ offerings, K (.supplier o.supplier)) f₂ := by
      refine assures_within (c := .categoryOfferings category.id)
        (Q := fun offerings : List SupplierPart => ∀ o ∈ offerings, K (.supplier o.supplier)) h₂ (fun _ => trivial)
        fun g offerings g' hg _ hrun => ?_
      have hperform : Except.ok (g.store.categoryOfferings category.id, g.store) = Except.ok (offerings, g'.store) :=
        FaultyStore.perform_eq_ok (perform_of_run_ask hrun)
      obtain ⟨rfl, -⟩ := Prod.mk.inj (Except.ok.inj hperform)
      exact fun o ho => hg.categoryOfferings ho
    refine hofferings.bind fun offerings f₃ h₃ hoffered => ?_
    have h₃ := h₃.holds h₂
    have hexisting : (ask (.recommendationsForPart history.part.id)).Assures (referring K) place (fun _ _ => True) f₃ :=
      assures_within (c := .recommendationsForPart history.part.id) (Q := fun _ => True) h₃ (fun _ => trivial)
        fun _ _ _ _ _ _ => trivial
    refine hexisting.bind fun existing f₄ h₄ _ => ?_
    exact Suggestion.obeys_insertAll (fun d => Suggestion.within_of_mem_plan (hpart.symm ▸ hknown) hsuppliers hoffered)
      f₄ (h₄.holds h₃)
  · exact assures_pure fun _ _ => trivial

theorem obeys_work (e : Engine) (pass : Pass) (z : EntityRef) : (e.work pass z).Obeys (referring K) place := by
  have hreassess : (e.reassess z).Obeys (referring K) place := by
    cases z with
    | supplier id => exact e.obeys_assessSupplier id
    | part id => exact e.obeys_assessPart id
  cases pass with
  | suppliers => exact hreassess
  | parts => exact hreassess
  | recommendations =>
      cases z with
      | supplier id => exact obeys_pure _
      | part id => exact (e.obeys_suggest id).bind fun _ => obeys_pure _

/-! ## Reviewers and planners -/

theorem obeys_resolveAlert (e : Engine) (id : AlertId) (resolver : Option String) :
    (e.resolveAlert id resolver).Obeys (referring K) place := by
  intro f h
  have hfound : (ask (.alert id)).Assures (referring K) place
      (fun a g => K a.entity ∧ a.ExplainedBy g.store.events) f := by
    refine assures_ask (c := .alert id) (fun g hg => allows_referring (hg.holds h) trivial)
      (fun g a g' hg hrun => ?_) fun a _ g g' hgrows hfit => ⟨hfit.1, hfit.2.grow hgrows⟩
    obtain ⟨hmem, hstore⟩ := alert_of_run_ask hrun
    have hg : g.Contained K := hg.holds h
    exact ⟨hg.refers.alerts _ hmem, hstore ▸ hg.refers.alertEvents _ hmem⟩
  refine hfound.bind fun a g hg hfit => ?_
  split
  · refine Assures.bind (Q := fun _ _ => True) ?_ fun _ _ _ _ => assures_pure fun _ _ => trivial
    refine assures_ask (c := .updateAlert (a.resolve e.now resolver)) (fun g' hg' => ?_) (fun _ _ _ _ _ => trivial)
      fun _ _ _ _ _ _ => trivial
    have hexplained : a.ExplainedBy g'.store.events :=
      hg'.keeps (P := fun g => a.ExplainedBy g.store.events) (fun _ _ _ hgrows hfit => hfit.grow hgrows) hfit.2
    exact allows_referring ((hg.trans hg').holds h) ⟨hfit.1, hexplained⟩
  · exact assures_pure fun _ _ => trivial

theorem obeys_reviewRecommendation (e : Engine) (id : RecommendationId) (notes : String) :
    (e.reviewRecommendation id notes).Obeys (referring K) place := by
  intro f h
  have hfound : (ask (.recommendation id)).Assures (referring K) place
      (fun r _ => Suggestion.Within K r.part r.suggestedSupplier r.primarySupplier) f := by
    refine assures_within (c := .recommendation id)
      (Q := fun r : Recommendation => Suggestion.Within K r.part r.suggestedSupplier r.primarySupplier) h
      (fun _ => trivial) fun g r g' hg _ hrun => ?_
    exact hg.refers.recommendations _ (recommendation_of_run_ask hrun).1
  refine hfound.bind fun r g hg hwithin => ?_
  refine Assures.bind (Q := fun _ _ => True) ?_ fun _ _ _ _ => assures_pure fun _ _ => trivial
  exact assures_within (c := .updateRecommendation (r.review notes e.today)) (Q := fun _ => True) (hg.holds h)
    (fun _ => ⟨hwithin.part, hwithin.suggested, hwithin.primary⟩) fun _ _ _ _ _ _ => trivial

end Engine

/-- A record that is read has an entity that is there, and its new threshold is saved for this one; a row for an unknown
entity comes to nothing. -/
theorem ThresholdRecord.obeys_apply {place : Nat} (row : ThresholdRecord) :
    row.apply.Obeys (Discipline.referring K) place := by
  have hpart (id : PartId) (threshold : Option UInt32) :
      (Script.ask (.setPartStockThreshold id threshold)).Obeys (Discipline.referring K) place := fun f h =>
    Script.assures_within (c := .setPartStockThreshold id threshold) (Q := fun _ => True) h (fun _ => trivial)
      fun _ _ _ _ _ _ => trivial
  have hsupplier (id : SupplierId) (value : Int) :
      (setAlertThreshold id value).Obeys (Discipline.referring K) place := by
    intro f h
    refine (Script.assures_supplierRisk h id _).bind fun record g hg hrecord => ?_
    refine (Script.assures_ofExcept (Q := fun changed _ => changed.supplier = id) fun changed hset _ _ => ?_).bind
      fun changed g' hg' hchanged => ?_
    · obtain ⟨percentage, -, rfl⟩ := map_eq_ok_iff.1 hset
      exact hrecord.1
    · exact (Script.assures_saveSupplierRisk ((hg.trans hg').holds h) (hchanged ▸ hrecord.2)).mono
        fun _ _ _ _ => trivial
  unfold apply
  split
  · split
    · exact Script.obeys_stop _
    · exact (hsupplier _ _).bind fun _ => Script.obeys_pure _
  · split
    · exact hpart _ _
    · cases stockThreshold _ with
      | ok threshold => exact hpart _ _
      | error e => exact Script.obeys_stop _

/-! ## Any calls -/

/-- Whatever engines are asked for, they refer to entities that are there. -/
theorem Discipline.referring_suits (K : EntityRef → Prop) (place : Nat) (e : Engine) :
    (referring K).Suits place e where
  work := e.obeys_work
  lists c hlists f hf := by rcases hlists with rfl | rfl | rfl | rfl <;> exact allows_referring hf trivial
  resolveAlert := e.obeys_resolveAlert
  reviewRecommendation := e.obeys_reviewRecommendation
  resolveEvent id notes f hf :=
    Script.assures_within (c := .resolveEvent id notes e.today) (Q := fun _ => True) hf (fun _ => trivial)
      fun _ _ _ _ _ _ => trivial
  row := ThresholdRecord.obeys_apply

/-- The store refers to nothing that is not there. -/
def Store.SelfContained (s : Store) : Prop := s.RefersWithin (fun z => s.knows z = true)

/-- **Referential integrity.**  In a store that refers to nothing that is not there, engines never write down anything
else: not after any calls, one after the other, and not while any number of calls are under way at the same time,
whatever the order of their store calls. -/
theorem FaultyStore.engine_calls_keep_references (f : FaultyStore) (calls : List (Engine × EngineCall))
    (h : f.store.SelfContained) :
    (f.afterCalls calls).store.SelfContained ∧
      ∀ schedule, ((EngineCall.pool f calls).run schedule).store.SelfContained := by
  have hcontained : f.Contained (fun z => f.store.knows z = true) := ⟨fun _ => Iff.rfl, h⟩
  have hpool : (EngineCall.pool f calls).Disciplined (Discipline.referring fun z => f.store.knows z = true) :=
    EngineCall.disciplined_pool hcontained fun place call _ => Discipline.referring_suits _ place call.1
  have hrun (schedule : List Nat) : ((EngineCall.pool f calls).run schedule).store.SelfContained := by
    have hafter : ((EngineCall.pool f calls).run schedule).backend.Contained (fun z => f.store.knows z = true) :=
      (hpool.run schedule).1.holds
    -- The calls run with the entities of the first store; the inventory still has the same ones.
    have hsame : (fun z => f.store.knows z = true) =
        fun z => ((EngineCall.pool f calls).run schedule).store.knows z = true :=
      funext fun z => propext (hafter.knows z).symm
    unfold Store.SelfContained
    rw [← hsame]
    exact hafter.refers
  obtain ⟨schedule, hschedule⟩ := EngineCall.exists_schedule f calls
  exact ⟨hschedule ▸ hrun schedule, hrun⟩

/-- Links name a supplier and a part that nobody knows, and so do some calls.  Two threads assess one part, and their
store calls alternate; its alert refers to the event that one of them has logged. -/
theorem FaultyStore.references_stay_with_links_to_nowhere :
    let f := plain ((Store.oneSource.link ⟨⟨7⟩, ⟨10⟩⟩).link ⟨⟨1⟩, ⟨77⟩⟩)
    let e := Engine.standardOn ⟨19000, by decide, by decide⟩
    let calls : List (Engine × EngineCall) :=
      [(e, .visit (fun _ => false) .parts (.part ⟨10⟩)), (e, .reassess (.part ⟨10⟩)), (e, .reassess (.supplier ⟨7⟩)),
        (e, .listen [[.part ⟨77⟩, .part ⟨78⟩]]),
        (e, .importThresholds [⟨.supplier, 7, some 50⟩, ⟨.part, 77, some 5⟩]), (e, .resolveAlert ⟨1⟩ none)]
    let schedule := (List.replicate 9 [0, 1, 2, 3, 4]).flatten ++ [5, 5]
    let t := ((EngineCall.pool f calls).run schedule).store
    f.store.SelfContained ∧ t.SelfContained ∧ (f.afterCalls calls).store.SelfContained ∧
      t.alerts.rows.map (fun a => (a.entity, a.event, a.resolved)) = [(.part ⟨10⟩, some ⟨1⟩, true)] ∧
      t.events.rows.map (fun event => (event.affectedSuppliers.rows, event.affectedParts.rows)) = [([⟨1⟩], [⟨10⟩])] := by
  intro f e calls schedule t
  have hempty : f.store.SelfContained := by
    constructor <;> rintro a ⟨⟩
  obtain ⟨hsequence, hpool⟩ := engine_calls_keep_references f calls hempty
  exact ⟨hempty, hpool schedule, hsequence, by decide +kernel, by decide +kernel⟩

end SupplyRisk
