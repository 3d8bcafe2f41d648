import SupplyRisk.Proofs.Engine.Alike
import SupplyRisk.Proofs.Engine.Isolation
import SupplyRisk.Proofs.Store.LinkedOnce

/-!
# Runs over repeated links

Two things that an engine makes of links are counts: the quality score of a supplier goes by the number of its links,
and a part has a single source if it has one active link.  So a link that is listed twice can hide a single source
(`repeated_link_hides_single_source`).  These are the only two: where they come out as without the repetitions
(`Engine.OverlooksRepeats`), a run does the same with and without them (`run_on_linkedOnce`).
-/

namespace SupplyRisk

/-! ## Verdicts -/

namespace Verdict

/-- What is made of a verdict. -/
structure Sight where
  record : RiskRecord
  alert : AlertContext
  event : EventDraft
  triggered : Bool
  belowStockThreshold : Bool

def sight (v : Verdict) : Sight := ⟨v.record, v.alert, v.event, v.triggered, v.belowStockThreshold⟩

theorem sight_ofOption {v v' : Verdict} (hsight : v'.sight = v.sight) :
    (ofOption (some v')).map sight = (ofOption (some v)).map sight := by
  have hrecord : v'.record = v.record := congrArg Sight.record hsight
  simp only [ofOption, hrecord]
  cases v.record.check with
  | ok _ => exact congrArg Except.ok hsight
  | error error => rfl

/-- Of the history of a part a verdict shows the set of its suppliers. -/
theorem sight_part {h h' : PartHistory} (hrepeats : h.Repeats h') (today : Date) (r : PartRisk) :
    (part h' today r).sight = (part h today r).sight := by
  have hpart : h'.part = h.part := by rw [hrepeats.same]
  have hsuppliers : Roster.ofList h'.suppliers = Roster.ofList h.suppliers :=
    Roster.ofList_congr SupplierId.rank_injective hrepeats.suppliers
  have hevent : Engine.partEvent h' today r = Engine.partEvent h today r := by
    simp only [Engine.partEvent, hpart, hsuppliers]
  have hbelow : h'.isBelowStockThreshold = h.isBelowStockThreshold := by
    rw [hrepeats.same]
    rfl
  simp only [sight, record, alert, event, triggered, belowStockThreshold, hpart, hevent, hbelow]

/-- Verdicts that look the same are settled the same way. -/
theorem settle_congr {v v' : Verdict} (hsight : v'.sight = v.sight) (now : Instant) : v'.settle now = v.settle now := by
  have hrecord : v'.record = v.record := congrArg Sight.record hsight
  have halert : v'.alert = v.alert := congrArg Sight.alert hsight
  have hevent : v'.event = v.event := congrArg Sight.event hsight
  have htriggered : v'.triggered = v.triggered := congrArg Sight.triggered hsight
  have hbelow : v'.belowStockThreshold = v.belowStockThreshold := congrArg Sight.belowStockThreshold hsight
  rw [settle, settle, hrecord, halert, hevent, htriggered, hbelow]

end Verdict

namespace Engine

variable {e : Engine} {s t : Store} {z : EntityRef}

/-! ## Counts of links -/

/-- Without repeated links, the engine counts to the same end: suppliers get the same quality scores, and the same
parts have a single source. -/
structure OverlooksRepeats (e : Engine) (s : Store) : Prop where
  quality : ∀ supplier ∈ s.suppliers.rows,
    Factor.quality e.config.scoring.quality (s.linkedOnce.linkCount supplier.id) =
      Factor.quality e.config.scoring.quality (s.linkCount supplier.id)
  singleSource : ∀ part ∈ s.parts.rows, (s.linkedOnce.sources part.id).length ≤ 1 ↔ (s.sources part.id).length ≤ 1

theorem overlooksRepeats_iff : e.OverlooksRepeats s ↔
    (∀ supplier ∈ s.suppliers.rows, Factor.quality e.config.scoring.quality (s.linkedOnce.linkCount supplier.id) =
      Factor.quality e.config.scoring.quality (s.linkCount supplier.id)) ∧
    ∀ part ∈ s.parts.rows, (s.linkedOnce.sources part.id).length ≤ 1 ↔ (s.sources part.id).length ≤ 1 :=
  ⟨fun h => ⟨h.quality, h.singleSource⟩, fun h => ⟨h.1, h.2⟩⟩

instance (e : Engine) (s : Store) : Decidable (e.OverlooksRepeats s) := decidable_of_iff _ overlooksRepeats_iff.symm

theorem OverlooksRepeats.congr (h : e.OverlooksRepeats s) (hinventory : t.inventory = s.inventory) :
    e.OverlooksRepeats t := by
  obtain ⟨inventory, supplierRisks, partRisks, alerts, recommendations, events⟩ := t
  cases hinventory
  exact ⟨h.quality, h.singleSource⟩

theorem judge_supplier_linkedOnce (h : e.OverlooksRepeats s) (r : SupplierRisk) :
    e.judge s.linkedOnce (.supplier r) = e.judge s (.supplier r) := by
  cases hknows : s.knows (.supplier r.supplier) with
  | false =>
      have hknows' : s.linkedOnce.knows (.supplier r.supplier) = false := by rwa [Store.knows_linkedOnce]
      simp only [judge, Store.supplierHistory_of_unknown hknows, Store.supplierHistory_of_unknown hknows']
  | true =>
      obtain ⟨history, hread⟩ := Store.supplierHistory_of_known hknows
      obtain ⟨hmem, hid, hcount, parts, hread', hcount'⟩ := Store.supplierHistory_linkedOnce hread
      have hquality := h.quality history.supplier hmem
      rw [hid, ← hcount, ← hcount'] at hquality
      -- Of the links, only the quality score sees how many there are.
      have hfactors (start : Date) : SupplierFactors.ofHistory e.config.scoring start
          { history with partsSupplied := parts } = SupplierFactors.ofHistory e.config.scoring start history := by
        simp only [SupplierFactors.ofHistory, hquality]
      simp only [judge, hread, hread', supplierVerdict?, hfactors]

theorem judge_part_linkedOnce (h : e.OverlooksRepeats s) (r : PartRisk) :
    (e.judge s.linkedOnce (.part r)).map Verdict.sight = (e.judge s (.part r)).map Verdict.sight := by
  cases hknows : s.knows (.part r.part) with
  | false =>
      have hknows' : s.linkedOnce.knows (.part r.part) = false := by rwa [Store.knows_linkedOnce]
      simp only [judge, Store.partHistory_of_unknown hknows, Store.partHistory_of_unknown hknows']
  | true =>
      obtain ⟨history, hread⟩ := Store.partHistory_of_known hknows
      obtain ⟨hmem, hid, hsources, history', hread', hrepeats, hsources'⟩ := Store.partHistory_linkedOnce hread
      have hsingle : history'.isSingleSource = history.isSingleSource := by
        have hcount := h.singleSource history.part hmem
        rw [hid, ← hsources, ← hsources'] at hcount
        exact decide_eq_decide.2 hcount
      have hstockout (start : Date) : Factor.stockout e.config.scoring.stockout start history' =
          Factor.stockout e.config.scoring.stockout start history := by
        rw [hrepeats.same]
        rfl
      simp only [judge, hread, hread', partVerdict?, hsingle, hstockout]
      cases windowStart? e.today e.config.scoring.historyWindowDays with
      | none => rfl
      | some start => exact Verdict.sight_ofOption (Verdict.sight_part hrepeats _ _)

theorem drafts_linkedOnce (e : Engine) (s : Store) (id : PartId) : e.drafts s.linkedOnce id = e.drafts s id := by
  cases hknows : s.knows (.part id) with
  | false =>
      have hknows' : s.linkedOnce.knows (.part id) = false := by rwa [Store.knows_linkedOnce]
      simp only [drafts, Store.partHistory_of_unknown hknows, Store.partHistory_of_unknown hknows']
  | true =>
      obtain ⟨history, hread⟩ := Store.partHistory_of_known hknows
      obtain ⟨-, -, -, history', hread', hrepeats, -⟩ := Store.partHistory_linkedOnce hread
      have hpart : history'.part = history.part := by rw [hrepeats.same]
      have hrecord : s.linkedOnce.riskOrFresh 0 (.part id) = s.riskOrFresh 0 (.part id) := rfl
      unfold drafts
      rw [hread, hread', hrecord]
      cases s.riskOrFresh 0 (.part id) with
      | supplier record => rfl
      | part record =>
          dsimp only
          rw [hpart]
          split
          · exact Suggestion.plan_congr _ hrepeats (s.categoryOfferings_linkedOnce _) _
          · rfl

theorem verdict_linkedOnce (h : e.OverlooksRepeats s) (z : EntityRef) :
    (e.verdict s.linkedOnce z).map Verdict.sight = (e.verdict s z).map Verdict.sight := by
  have hfor : e.recordFor s.linkedOnce z = e.recordFor s z := by cases z <;> rfl
  unfold verdict
  rw [hfor]
  cases e.recordFor s z with
  | supplier r => rw [judge_supplier_linkedOnce h]
  | part r => exact judge_part_linkedOnce h r

/-- An assessment sees the links through its verdict alone. -/
theorem reassess_linkedOnce (h : e.OverlooksRepeats s) (z : EntityRef) :
    (e.reassess z).run (.plain s.linkedOnce) =
      (((e.reassess z).run (.plain s)).1, .plain ((e.reassess z).run (.plain s)).2.store.linkedOnce) := by
  have hreads : e.afterReads s.linkedOnce z = (e.afterReads s z).linkedOnce := s.withRisk_linkedOnce _ z
  have hverdict := verdict_linkedOnce h z
  rw [reassess_plain, reassess_plain, hreads]
  cases hs : e.verdict s z with
  | error cause =>
      rw [hs] at hverdict
      rw [map_eq_error_iff.1 hverdict]
      rfl
  | ok v =>
      rw [hs] at hverdict
      obtain ⟨v', ht, hsight⟩ := map_eq_ok_iff.1 hverdict
      have hrecord : v'.record = v.record := congrArg Verdict.Sight.record hsight
      rw [ht]
      dsimp only
      rw [hrecord, Verdict.settle_congr hsight, Store.putRisk_linkedOnce, Script.run_linkedOnce (v.only_settle e.now)]
      split <;> rfl

/-- Suggestions see neither of the counts. -/
theorem recommend_linkedOnce (e : Engine) (s : Store) (z : EntityRef) :
    (e.recommend z).run (.plain s.linkedOnce) =
      (((e.recommend z).run (.plain s)).1, .plain ((e.recommend z).run (.plain s)).2.store.linkedOnce) := by
  cases z with
  | supplier id => rfl
  | part id =>
      cases hknown : s.knows (.part id) with
      | false =>
          rw [recommend_run_of_unknown hknown, recommend_run_of_unknown ((s.knows_linkedOnce _).trans hknown)]
          rfl
      | true =>
          have hknown' := (s.knows_linkedOnce (.part id)).trans hknown
          obtain ⟨hfold, hmost⟩ := (s.withRisk 0 (.part id)).suggested_linkedOnce (e.drafts s id)
          have hall (t : Store) (drafts : List RecommendationDraft) :
              t.linkedOnce.suggestsAll drafts = t.suggestsAll drafts := by
            rw [Bool.eq_iff_iff, Store.suggestsAll_iff, Store.suggestsAll_iff]
            exact Iff.rfl
          rw [recommend_of_known hknown, recommend_of_known hknown', s.withRisk_linkedOnce, drafts_linkedOnce, hall,
            hfold, hmost]
          split <;> rfl

/-- Work on an entity does not depend on repetitions that the engine overlooks. -/
theorem work_linkedOnce (h : e.OverlooksRepeats s) (pass : Pass) (z : EntityRef) :
    (e.work pass z).run (.plain s.linkedOnce) =
      (((e.work pass z).run (.plain s)).1, .plain ((e.work pass z).run (.plain s)).2.store.linkedOnce) := by
  cases pass with
  | suppliers => exact reassess_linkedOnce h z
  | parts => exact reassess_linkedOnce h z
  | recommendations => exact e.recommend_linkedOnce s z

/-! ## Runs -/

/-- The second store is the first one without its repeated links, which the engine overlooks. -/
def WithoutRepeats (e : Engine) (f g : FaultyStore) : Prop :=
  ∃ s, f = .plain s ∧ g = .plain s.linkedOnce ∧ e.OverlooksRepeats s

theorem attemptsAlike_withoutRepeats (e : Engine) (late : Nat → Bool) :
    e.AttemptsAlike e.WithoutRepeats False late := by
  rintro pass z f g ⟨s, rfl, rfl, h⟩
  rw [retryingUntil_final fun error => e.work_final pass z s,
    retryingUntil_final fun error => e.work_final pass z s.linkedOnce, work_linkedOnce h]
  exact .inr ⟨rfl, _, (e.work pass z).run_plain s, rfl, h.congr (e.inventory_work pass z (.plain s))⟩

theorem listingsAlike_withoutRepeats (e : Engine) : ListingsAlike e.WithoutRepeats where
  suppliers := by
    rintro f g ⟨s, rfl, rfl, h⟩
    exact ⟨_, _, _, _, rfl, rfl, rfl, s, rfl, rfl, h⟩
  parts := by
    rintro f g ⟨s, rfl, rfl, h⟩
    exact ⟨_, _, _, _, rfl, rfl, rfl, s, rfl, rfl, h⟩
  partRisks := by
    rintro f g ⟨s, rfl, rfl, h⟩
    exact ⟨_, _, _, _, rfl, rfl, rfl, s, rfl, rfl, h⟩
  alerts := by
    rintro f g ⟨s, rfl, rfl, h⟩
    exact ⟨_, _, _, _, rfl, rfl, rfl, s, rfl, rfl, h⟩

/-- Where counting repeated links comes to the same, a run over a snapshot does the same with and without them: it
gives the same summary and sends the same notifications, and the stores that it leaves differ in repeated links only. -/
theorem run_on_linkedOnce (e : Engine) (clock : Clock) (crew : Crew) (sink : Sink) (options : RunOptions)
    (snapshot : Snapshot) (h : e.OverlooksRepeats (.ofSnapshot snapshot)) :
    Running.EndAlike (fun f g => ∃ s, f = .plain s ∧ g = .plain s.linkedOnce)
      (e.runTimed clock crew sink options { backend := .plain (.ofSnapshot snapshot) })
      (e.runTimed clock crew sink options { backend := .plain (.ofSnapshot snapshot.linkedOnce) }) := by
  have halike : World.Alike e.WithoutRepeats { backend := .plain (.ofSnapshot snapshot) }
      { backend := .plain (.ofSnapshot snapshot.linkedOnce) } :=
    ⟨⟨_, rfl, congrArg FaultyStore.plain (Store.ofSnapshot_linkedOnce snapshot), h⟩, rfl, rfl⟩
  have hends := run_ends_alike e.attemptsAlike_withoutRepeats e.listingsAlike_withoutRepeats clock crew sink options
    halike
  exact hends.mono fun f g hfg => by
    obtain ⟨s, hf, hg, -⟩ := hfg
    exact ⟨s, hf, hg⟩

/-- A part with two suppliers keeps having two of them when one is listed twice. -/
theorem run_overlooks_third_link :
    let e := standardOn Store.sampleDay
    let snapshot : Snapshot := {
      suppliers := [⟨⟨1⟩, "S0001", "Acme Castings", true, none⟩, ⟨⟨2⟩, "S0002", "Borealis", true, none⟩]
      parts := [⟨⟨10⟩, "P0010", "Gearbox housing", none, none⟩]
      links := [⟨⟨1⟩, ⟨10⟩⟩, ⟨⟨2⟩, ⟨10⟩⟩, ⟨⟨1⟩, ⟨10⟩⟩] }
    snapshot.linkedOnce.links = [⟨⟨1⟩, ⟨10⟩⟩, ⟨⟨2⟩, ⟨10⟩⟩] ∧ e.OverlooksRepeats (.ofSnapshot snapshot) ∧
      Running.EndAlike (fun f g => ∃ s, f = .plain s ∧ g = .plain s.linkedOnce)
        (e.runTimed .still .caller .accepting {} { backend := .plain (.ofSnapshot snapshot) })
        (e.runTimed .still .caller .accepting {} { backend := .plain (.ofSnapshot snapshot.linkedOnce) }) := by
  intro e snapshot
  have h : e.OverlooksRepeats (.ofSnapshot snapshot) := by decide +kernel
  exact ⟨by decide +kernel, h, run_on_linkedOnce e .still .caller .accepting {} snapshot h⟩

/-- The only supplier of a part is listed twice for it.  The part then counts as one with two sources, and its risk is
medium; it is high when the link is listed once. -/
theorem repeated_link_hides_single_source :
    let e := standardOn Store.sampleDay
    let options : RunOptions := { partsOnly := true }
    let snapshot : Snapshot := {
      suppliers := [⟨⟨1⟩, "S0001", "Acme Castings", true, none⟩]
      parts := [⟨⟨10⟩, "P0010", "Gearbox housing", none, none⟩]
      links := [⟨⟨1⟩, ⟨10⟩⟩, ⟨⟨1⟩, ⟨10⟩⟩] }
    snapshot.linkedOnce.links = [⟨⟨1⟩, ⟨10⟩⟩] ∧
      (∃ summary w, e.run .accepting options { backend := .plain (.ofSnapshot snapshot) } = .ok summary w ∧
        summary.partsHighRisk = 0 ∧ summary.riskEventsCreated = 0 ∧
        w.backend.store.partRisks.rows.map (fun r => (r.singleSource, r.combined, r.level)) = [(false, 50, .medium)]) ∧
      ∃ summary w, e.run .accepting options { backend := .plain (.ofSnapshot snapshot.linkedOnce) } = .ok summary w ∧
        summary.partsHighRisk = 1 ∧ summary.riskEventsCreated = 1 ∧
        w.backend.store.partRisks.rows.map (fun r => (r.singleSource, r.combined, r.level)) = [(true, 65, .high)] := by
  intro e options snapshot
  refine ⟨by decide +kernel, ?_, ?_⟩
  · obtain ⟨summary, w, hrun, hends⟩ := Running.exists_of_passes (e.run .accepting options)
      { backend := .plain (.ofSnapshot snapshot) } (fun summary w =>
        decide (summary.partsHighRisk = 0 ∧ summary.riskEventsCreated = 0 ∧
          w.backend.store.partRisks.rows.map (fun r => (r.singleSource, r.combined, r.level)) =
            [(false, 50, .medium)])) (by decide +kernel)
    exact ⟨summary, w, hrun, of_decide_eq_true hends⟩
  · obtain ⟨summary, w, hrun, hends⟩ := Running.exists_of_passes (e.run .accepting options)
      { backend := .plain (.ofSnapshot snapshot.linkedOnce) } (fun summary w =>
        decide (summary.partsHighRisk = 1 ∧ summary.riskEventsCreated = 1 ∧
          w.backend.store.partRisks.rows.map (fun r => (r.singleSource, r.combined, r.level)) =
            [(true, 65, .high)])) (by decide +kernel)
    exact ⟨summary, w, hrun, of_decide_eq_true hends⟩

end Engine

end SupplyRisk
