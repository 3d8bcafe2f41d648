import SupplyRisk.Exchange.Threshold
import SupplyRisk.Proofs.Alert.Reconcile
import SupplyRisk.Proofs.Store.Inventory
import SupplyRisk.Proofs.Store.Log

/-!
# Upkeep between assessments

Between assessments planners change the inventory, the flags of parts and the thresholds, and reviewers resolve
alerts.  None of them writes an event, and resolving an open alert is all that they do about alerts
(`Upkeep.after_cases`).
-/

namespace SupplyRisk

/-- What planners and reviewers do. -/
inductive Upkeep where
  /-- Any other inventory takes the place of the one there is. -/
  | restock (inventory : Inventory)
  | setFlags (id : PartId) (longLeadTime highValue : Bool)
  | importRow (row : ThresholdRecord)
  | resolveAlert (id : AlertId) (resolver : Option String) (now : Instant)

namespace Upkeep

/-- The store after some upkeep, whether it succeeds or fails. -/
def after (f : FaultyStore) : Upkeep → FaultyStore
  | restock inventory => { f with store := f.store.restock inventory }
  | setFlags id longLeadTime highValue => ((setPartFlags id longLeadTime highValue).run f).2
  | importRow row => (row.apply.run f).2
  | resolveAlert id resolver now => ((SupplyRisk.resolveAlert id resolver now).run f).2

theorem only_setPartFlags (id : PartId) (longLeadTime highValue : Bool) :
    (setPartFlags id longLeadTime highValue).Only (fun c => c.leavesLog = true) :=
  Script.only_bind (Script.only_ask rfl) fun _ => Script.only_ask rfl

theorem only_importRow (row : ThresholdRecord) : row.apply.Only (fun c => c.leavesLog = true) := by
  unfold ThresholdRecord.apply
  split
  · split
    · exact Script.only_fail _
    · refine Script.only_bind (Script.only_bind (Script.only_ask rfl) fun record => ?_) fun _ => trivial
      exact Script.only_bind (Script.only_ofExcept _) fun changed => Script.only_ask rfl
  · split
    · exact Script.only_ask rfl
    · exact Script.only_bind (Script.only_ofExcept _) fun threshold => Script.only_ask rfl

/-- Upkeep leaves alerts and events alone, or it resolves an open alert. -/
theorem after_cases (f : FaultyStore) (upkeep : Upkeep) :
    f.store.SameLog (upkeep.after f).store ∨
      ∃ a now resolver, a ∈ f.store.alerts.rows ∧ a.isOpen = true ∧
        (upkeep.after f).store = f.store.putAlert (a.resolve now resolver) := by
  cases upkeep with
  | restock inventory => exact .inl ⟨rfl, rfl⟩
  | setFlags id longLeadTime highValue =>
      exact .inl (Store.sameLog_of_script (only_setPartFlags id longLeadTime highValue) f)
  | importRow row => exact .inl (Store.sameLog_of_script (only_importRow row) f)
  | resolveAlert id resolver now =>
      obtain ⟨result, s, hrun, hdoes⟩ := resolveAlert_run id resolver now f
      have hafter : (after f (.resolveAlert id resolver now)).store = s := by rw [after, hrun]
      rw [hafter]
      cases hdoes with
      | closes hmem hid hopen => exact .inr ⟨_, now, resolver, hmem, hopen, rfl⟩
      | leaves hnone => exact .inl (.refl f.store)

/-- Upkeep keeps what no call of the store can break, and nothing in the inventory bears on. -/
theorem after_stable {P : Store → Prop} (hP : Store.Stable (fun _ => True) P)
    (hrestock : ∀ s i, P s → P (Store.restock s i)) {f : FaultyStore} (h : P f.store) (upkeep : Upkeep) :
    P (upkeep.after f).store := by
  cases upkeep with
  | restock inventory => exact hrestock f.store inventory h
  | setFlags id longLeadTime highValue => exact Script.run_stable hP (Script.only_all _) f h
  | importRow row => exact Script.run_stable hP (Script.only_all _) f h
  | resolveAlert id resolver now => exact Script.run_stable hP (Script.only_all _) f h

end Upkeep

/-- A call: an assessment, or what planners and reviewers do in between. -/
inductive Turn where
  | assess (e : Engine) (entity : EntityRef)
  | upkeep (work : Upkeep)

/-- The store after a call, whether it succeeds or fails. -/
def Turn.after (f : FaultyStore) : Turn → FaultyStore
  | assess e entity => ((e.reassess entity).run f).2
  | upkeep work => work.after f

end SupplyRisk
