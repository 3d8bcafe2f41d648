import SupplyRisk.Engine.Assess
import SupplyRisk.Proofs.Script

/-!
# What suggesting asks of a store

Looking for suppliers to suggest reads the inventory and the suggestions of the part, and adds suggestions; before
that the history and the risk record of the part are read.
-/

namespace SupplyRisk

/-- The calls of looking for suppliers to suggest. -/
def StoreCall.onSuggestions : StoreCall → Bool
  | .categoryOfferings _ | .recommendationsForPart _ | .insertRecommendation _ => true
  | _ => false

namespace Suggestion

theorem only_insertAll (drafts : List RecommendationDraft) :
    (insertAll drafts).Only (fun c => c.onSuggestions = true) := by
  induction drafts with
  | nil => exact Script.only_pure _
  | cons d ds ih =>
      unfold insertAll
      refine Script.only_bind (Script.only_attempt rfl) fun answer => ?_
      split
      · exact Script.only_bind ih fun _ => Script.only_pure _
      · exact ih
      · exact Script.only_fail _

theorem only_generate (c : RecommendationConfig) (record : PartRisk) (h : PartHistory) :
    (generate c record h).Only (fun c => c.onSuggestions = true) := by
  unfold generate
  split
  · refine Script.only_bind (Script.only_ask rfl) fun offerings => ?_
    exact Script.only_bind (Script.only_ask rfl) fun existing => only_insertAll _
  · exact Script.only_pure _

end Suggestion

/-- The calls of recommending. -/
def StoreCall.recommends : StoreCall → Bool
  | .partHistory _ | .partRisk _ => true
  | c => c.onSuggestions

theorem StoreCall.recommends_of_onSuggestions {c : StoreCall} (hc : c.onSuggestions = true) :
    c.recommends = true := by
  cases c <;> first | rfl | cases hc

theorem Engine.only_recommend (e : Engine) (entity : EntityRef) :
    (e.recommend entity).Only (fun c => c.recommends = true) := by
  unfold recommend suggest
  split
  · exact Script.only_pure _
  · refine Script.only_bind ?_ fun _ => Script.only_pure _
    refine Script.only_bind (Script.only_ask rfl) fun history => ?_
    refine Script.only_bind (Script.only_ask rfl) fun record => ?_
    exact Script.only_mono (Suggestion.only_generate _ _ _) fun c => StoreCall.recommends_of_onSuggestions

end SupplyRisk
