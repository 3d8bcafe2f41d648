import SupplyRisk.Proofs.Engine.Replay
import SupplyRisk.Proofs.Suggestion

/-!
# Recommending in spite of faults

Looking for alternatives meets only the faults of reading a history, and reads it first.  An attempt that fails
for such a fault has changed nothing (`recommend_progress`).  The suggestions depend on the risk record of the
part, but not on its version (`recommend_result`).
-/

namespace SupplyRisk

namespace Suggestion

theorem final_insertAll (drafts : List RecommendationDraft) : (insertAll drafts).Final := by
  induction drafts with
  | nil => trivial
  | cons d ds ih =>
      unfold insertAll
      refine ⟨rfl, fun answer hanswer => ?_⟩
      dsimp only [Script.bind]
      split
      · exact Script.final_bind ih fun rest => trivial
      · exact ih
      · rename_i e hother
        intro error herror
        cases herror
        exact hanswer e rfl

theorem final_generate (c : RecommendationConfig) (record : PartRisk) (h : PartHistory) :
    (generate c record h).Final := by
  unfold generate
  split
  · refine Script.final_bind (Script.final_ask rfl) fun offerings => ?_
    exact Script.final_bind (Script.final_ask rfl) fun existing => final_insertAll _
  · trivial

end Suggestion

theorem StoreCall.ignoresRisks_of_onSuggestions {c : StoreCall} (hc : c.onSuggestions = true) :
    c.ignoresRisks = true := by
  cases c <;> first | rfl | cases hc

theorem Faults.spares_onSuggestions (faults : Faults) {c : StoreCall} (hc : c.onSuggestions = true) :
    faults.Spares c := by
  refine .of_unsaved ?_ fun s => ?_ <;> cases c <;> first | rfl | cases hc

namespace Engine

variable {e : Engine} {entity : EntityRef} {f : FaultyStore} {p : RetryPolicy}

theorem final_recommend (e : Engine) (entity : EntityRef) : (e.recommend entity).Final := by
  cases entity with
  | supplier id => trivial
  | part id =>
      refine Script.final_bind ?_ fun created => trivial
      refine Script.final_bind (Script.final_ask rfl) fun history => ?_
      exact Script.final_bind (Script.final_ask rfl) fun record => Suggestion.final_generate _ _ _

/-- Once the history of a part can be read, no fault is met. -/
theorem recommend_spared {id : PartId} (hmissing : f.faults.missing.contains (EntityRef.part id).rank = false)
    (hread : f.faults.transientOnce.contains (EntityRef.part id).rank = false) :
    (e.recommend (.part id)).Only f.faults.Spares := by
  refine Script.only_bind ?_ fun created => trivial
  refine Script.only_bind (Script.only_ask (.of_unsaved rfl fun s => ?_)) fun history => ?_
  · exact FaultyStore.readHistory_of_spared (f := ⟨s, f.faults⟩) _ hmissing hread
  refine Script.only_bind (Script.only_ask (.of_unsaved rfl fun s => ?_)) fun record => ?_
  · simp only [FaultyStore.perform, FaultyStore.readRisk, hmissing, Bool.false_eq_true, if_false]
  · exact Script.only_mono (Suggestion.only_generate _ _ _) fun c hc =>
      f.faults.spares_onSuggestions hc

/-- What is left to do for a part once history and record have been read. -/
def suggestFor (e : Engine) (record : PartRisk) (h : PartHistory) : Script Outcome := do
  let created ← Suggestion.generate e.config.recommendations record h
  return { recommendations := created.length }

theorem suggestFor_ignoresRisks (e : Engine) (record : PartRisk) (h : PartHistory) :
    (e.suggestFor record h).Only (fun c => c.ignoresRisks = true) :=
  Script.only_bind (Script.only_mono (Suggestion.only_generate _ _ _) fun _ =>
    StoreCall.ignoresRisks_of_onSuggestions) fun _ => trivial

theorem recommend_run_of_known {s : Store} {id : PartId} (hknown : s.knows (.part id) = true) :
    ∃ h record, s.partHistory id = .ok h ∧ s.riskOrFresh 0 (.part id) = .part record ∧
      (e.recommend (.part id)).run (.plain s) = (e.suggestFor record h).run (.plain (s.withRisk 0 (.part id))) := by
  obtain ⟨h, hhistory⟩ := Store.partHistory_of_known hknown
  obtain ⟨record, -, hrecord, hrisk⟩ := Store.partRisk_of_known hknown 0
  refine ⟨h, record, hhistory, hrecord, ?_⟩
  have hread : s.perform (.partHistory id) = .ok (h, s) := by
    simp only [Store.perform, hhistory]
    rfl
  have hreadRisk : s.perform (.partRisk id) = .ok (record, s.withRisk 0 (.part id)) := hrisk
  simp only [recommend, suggest, bind_assoc]
  rw [Script.run_bind, Script.run_ask rfl, FaultyStore.perform_plain, hread]
  dsimp only
  rw [Script.run_bind, Script.run_ask rfl, FaultyStore.perform_plain, hreadRisk]
  rfl

/-- A history that cannot be read ends the attempt. -/
theorem recommend_run_of_unread {id : PartId} {error : RiskError} {g : FaultyStore}
    (hread : f.perform (.partHistory id) = (.error error, g)) :
    (e.recommend (.part id)).run f = (.error (.failure error), g) := by
  simp only [recommend, suggest, bind_assoc]
  rw [Script.run_bind, Script.run_ask rfl, hread]

theorem recommend_run_of_unknown {s : Store} {id : PartId} (hunknown : s.knows (.part id) = false) :
    (e.recommend (.part id)).run (.plain s) = (.error (.failure (.notFound (.part id))), .plain s) := by
  have hread : s.perform (.partHistory id) = .error (.notFound (.part id)) := by
    simp only [Store.perform, Store.partHistory_of_unknown hunknown]
    rfl
  exact recommend_run_of_unread (by rw [FaultyStore.perform_plain, hread])

/-- The suggestions for a part do not depend on versions. -/
theorem recommend_result (e : Engine) (entity : EntityRef) (s : Store) :
    (e.recommend entity).result s =
      (((e.recommend entity).run (.plain s)).1, ((e.recommend entity).run (.plain s)).2.store.unversioned) := by
  cases entity with
  | supplier id => exact congrArg (Prod.mk _) (Store.unversioned_unversioned s)
  | part id =>
      have hknows : s.unversioned.knows (.part id) = s.knows (.part id) := Store.knows_congr rfl _
      cases hknown : s.knows (.part id) with
      | false =>
          rw [Script.result, recommend_run_of_unknown hknown, recommend_run_of_unknown (hknows.trans hknown)]
          exact congrArg (Prod.mk _) (Store.unversioned_unversioned s)
      | true =>
          obtain ⟨h, record, hhistory, hrecord, hrun⟩ := recommend_run_of_known (e := e) hknown
          obtain ⟨h', record', hhistory', hrecord', hrun'⟩ :=
            recommend_run_of_known (e := e) (hknows.trans hknown)
          have hsame : h' = h := by
            rw [Store.partHistory_congr (Store.inventory_unversioned s), hhistory] at hhistory'
            exact (Except.ok.inj hhistory').symm
          have hversion : record' = record.unversioned := by
            rw [Store.riskOrFresh_unversioned, hrecord] at hrecord'
            exact (RiskRecord.part.inj hrecord').symm
          rw [Script.result, hrun, hrun', hsame, hversion, Store.withRisk_unversioned]
          exact Script.result_of_ignores (e.suggestFor_ignoresRisks record h) _

/-- An attempt to recommend makes progress. -/
theorem recommend_progress (e : Engine) (entity : EntityRef) (f : FaultyStore)
    (hmasked : f.faults.Masked p) :
    Progress (e.recommend entity) entity f ((e.recommend entity).run f) := by
  have hends (honly : (e.recommend entity).Only f.faults.Spares) :
      Progress (e.recommend entity) entity f ((e.recommend entity).run f) := by
    rw [Script.run_spared honly]
    exact .ends (e.recommend_result entity f.store) (fun error herror => (e.final_recommend entity).run_plain herror)
      (.refl f.faults)
  cases entity with
  | supplier id => exact hends trivial
  | part id =>
      have hmissing := hmasked.missing (EntityRef.part id).rank
      cases hread : f.faults.transientOnce.contains (EntityRef.part id).rank with
      | false => exact hends (recommend_spared hmissing hread)
      | true =>
          rw [recommend_run_of_unread (FaultyStore.readHistory_of_transient (.partHistory id) hmissing hread)]
          exact .of_failedRead hread

end Engine

end SupplyRisk
