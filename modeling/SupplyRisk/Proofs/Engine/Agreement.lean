import SupplyRisk.Exchange.Threshold
import SupplyRisk.Proofs.Engine.Assess
import SupplyRisk.Proofs.Engine.Running
import SupplyRisk.Proofs.Engine.Verdict
import SupplyRisk.Proofs.Suggestion

/-!
# Alerts and risk records agree

`EngineStep` lists what the engine does to a store.  Every step keeps a store consistent, whatever faults are to
come and whether the step succeeds or fails (`EngineStep.after_consistent`); so do steps in any number and order
(`runAll_consistent`).  Attempts to assess are the only steps that change a level; all others are quiet, resolve an
alert, or save a record at the level that was read.
-/

namespace SupplyRisk

/-- A step of the engine. -/
inductive EngineStep where
  /-- One attempt to assess a supplier or a part. -/
  | assess (entity : EntityRef)
  | resolveAlert (id : AlertId) (resolver : Option String)
  | importRow (row : ThresholdRecord)
  | reviewRecommendation (id : RecommendationId) (notes : String)
  | resolveEvent (id : EventId) (notes : String)
  | recommendationPass (clock : Clock) (crew : Crew)
  /-- A whole run, with repeated attempts. -/
  | run (clock : Clock) (crew : Crew) (sink : Sink) (options : RunOptions)

/-- The store after a step, whether it succeeds or fails. -/
def EngineStep.after (e : Engine) (f : FaultyStore) : EngineStep → FaultyStore
  | assess entity => ((e.reassess entity).run f).2
  | resolveAlert id resolver => ((e.resolveAlert id resolver).run f).2
  | importRow row => (row.apply.run f).2
  | reviewRecommendation id notes => ((e.reviewRecommendation id notes).run f).2
  | resolveEvent id notes => ((e.resolveEvent id notes).run f).2
  | recommendationPass clock crew =>
      (e.passIf clock crew true .recommendations .addRecommendations {}).storeAfter { backend := f }
  | run clock crew sink options => (e.runTimed clock crew sink options).storeAfter { backend := f }

/-! ## Quiet steps -/

theorem StoreCall.quiet_of_recommends {c : StoreCall} (hc : c.recommends = true) : c.quiet = true := by
  cases c <;> first | rfl | cases hc

/-! ## Thresholds -/

theorem FaultyStore.sameLevels_save {f : FaultyStore} {c : StoreCall} {r r' : RiskRecord}
    (hsave : c.savedRisk? = some r) (hstored : f.store.riskRecord? r.entity = some r')
    (hlevel : r.level = r'.level) : f.store.SameLevels (f.perform c).2.store := by
  obtain ⟨s, hsame, ⟨e, -, hstore⟩ | ⟨answer, -, -, hstore⟩⟩ := f.perform_save hsave
  · rwa [hstore]
  · -- A foreign save in between has kept the level, too.
    rw [hstore]
    refine hsame.trans (Store.sameLevels_putRisk fun r'' hput => ?_)
    obtain ⟨r₁, hr₁, hlevel₁⟩ := hsame.levels _ _ hstored
    rw [RiskRecord.entity_next, hr₁] at hput
    cases hput
    rw [RiskRecord.level_next, hlevel, hlevel₁]

/-- What a new threshold leaves behind: what reading the record does, and what saving it does, or giving that up, if it
was read and the threshold is all right. -/
theorem setAlertThreshold_leaves {P : FaultyStore → Prop} {id : SupplierId} {threshold : Int} {f : FaultyStore}
    (hread : P (f.perform (.supplierRisk id standardAlertThreshold)).2)
    (hsave : ∀ (record changed : SupplierRisk) (g : FaultyStore), P g →
      g.store.riskRecord? record.entity = some (.supplier record) → record.setAlertThreshold threshold = .ok changed →
        P (g.perform (.saveSupplierRisk changed)).2 ∧ P (g.giveUp (.saveSupplierRisk changed))) :
    P ((setAlertThreshold id threshold).run f).2 := by
  rw [← Script.snd_run_ask rfl] at hread
  refine Script.run_bind_leaves (fun cause g hrun => ?_) fun record g hrun => ?_
  · rwa [hrun] at hread
  · rw [hrun] at hread
    have hstored := riskRecord?_of_supplierRisk hrun
    rw [← Store.entity_of_riskRecord? hstored] at hstored
    cases hset : record.setAlertThreshold threshold with
    | error e => exact hread
    | ok changed =>
        show P ((Script.ask (.saveSupplierRisk changed)).run g).2
        obtain ⟨hmade, hgiven⟩ := hsave record changed g hread hstored hset
        rcases Script.snd_run_ask_cases (.saveSupplierRisk changed) g with hends | hends
        · rwa [hends]
        · rwa [hends]

/-- A row sets the threshold of a supplier or of a part, or comes to nothing. -/
theorem ThresholdRecord.apply_leaves {P : FaultyStore → Prop} {f : FaultyStore} (row : ThresholdRecord) (h : P f)
    (hsupplier : ∀ id threshold, P ((setAlertThreshold id threshold).run f).2)
    (hpart : ∀ id threshold, P (f.perform (.setPartStockThreshold id threshold)).2) : P (row.apply.run f).2 := by
  have hask (id : PartId) (threshold : Option UInt32) :
      P ((Script.ask (.setPartStockThreshold id threshold)).run f).2 := by
    rw [Script.snd_run_ask rfl]
    exact hpart id threshold
  unfold apply
  split
  · rename_i id _
    split
    · exact h
    · rename_i value _
      have hset := hsupplier id value
      refine Script.run_bind_leaves (fun cause g hrun => ?_) fun record g hrun => ?_
      · rwa [hrun] at hset
      · rwa [hrun] at hset
  · rename_i id _
    split
    · exact hask id none
    · rename_i value _
      cases stockThreshold value with
      | error e => exact h
      | ok word => exact hask id (some word)

/-- The threshold of a supplier is saved at the level that was read. -/
theorem setAlertThreshold_sameLevels (id : SupplierId) (threshold : Int) (f : FaultyStore) :
    f.store.SameLevels ((setAlertThreshold id threshold).run f).2.store := by
  have hread : f.store.SameLevels (f.perform (.supplierRisk id standardAlertThreshold)).2.store :=
    FaultyStore.perform_stable (Store.sameLevels_stable f.store) rfl (.refl f.store)
  refine setAlertThreshold_leaves (P := fun g => f.store.SameLevels g.store) hread
    fun record changed g hg hstored hset => ?_
  obtain ⟨value, -, rfl⟩ := map_eq_ok_iff.1 hset
  exact ⟨hg.trans (FaultyStore.sameLevels_save rfl hstored rfl), hg.trans (g.sameLevels_giveUp _)⟩

theorem ThresholdRecord.apply_sameLevels (row : ThresholdRecord) (f : FaultyStore) :
    f.store.SameLevels (row.apply.run f).2.store :=
  row.apply_leaves (P := fun g => f.store.SameLevels g.store) (.refl f.store)
    (fun id threshold => setAlertThreshold_sameLevels id threshold f) fun _ _ =>
      FaultyStore.perform_stable (Store.sameLevels_stable f.store) rfl (.refl f.store)

/-! ## Steps -/

theorem resolveAlert_consistent {f : FaultyStore} (hcons : f.store.Consistent) (id : AlertId)
    (resolver : Option String) (now : Instant) :
    ((resolveAlert id resolver now).run f).2.store.Consistent := by
  obtain ⟨result, s, hrun, hdoes⟩ := resolveAlert_run id resolver now f
  rw [hrun]
  exact hcons.resolve hdoes

/-- The work of every pass keeps consistency. -/
theorem Engine.work_consistent (e : Engine) (pass : Pass) (entity : EntityRef) (f : FaultyStore)
    (hcons : f.store.Consistent) : ((e.work pass entity).run f).2.store.Consistent := by
  cases pass with
  | recommendations =>
      exact hcons.quiet (Script.only_mono (e.only_recommend entity) fun c => StoreCall.quiet_of_recommends)
  | suppliers => exact (e.reassess_attempts entity hcons).consistent
  | parts => exact (e.reassess_attempts entity hcons).consistent

theorem Engine.lists_consistent {c : StoreCall} (hlists : Lists c) (f : FaultyStore)
    (hcons : f.store.Consistent) : (f.perform c).2.store.Consistent := by
  have hlisted : c.quiet = true ∧ f.hasRoom c = true := by
    rcases hlists with rfl | rfl | rfl | rfl <;> exact ⟨rfl, rfl⟩
  have hcons' := hcons.quiet (f := f) (Script.only_ask hlisted.1)
  rwa [Script.snd_run_ask hlisted.2] at hcons'

/-- One step keeps consistency, whether it succeeds or fails. -/
theorem EngineStep.after_consistent (e : Engine) {f : FaultyStore} (hcons : f.store.Consistent)
    (step : EngineStep) : (step.after e f).store.Consistent := by
  cases step with
  | assess entity => exact (e.reassess_attempts entity hcons).consistent
  | resolveAlert id resolver => exact resolveAlert_consistent hcons id resolver e.now
  | importRow row => exact hcons.of_sameLevels (row.apply_sameLevels f)
  | reviewRecommendation id notes =>
      refine hcons.quiet (Script.only_bind (Script.only_ask rfl) fun record => ?_)
      exact Script.only_bind (Script.only_ask rfl) fun _ => Script.only_pure _
  | resolveEvent id notes => exact hcons.quiet (Script.only_ask rfl)
  | recommendationPass clock crew =>
      exact Engine.keeps_passIf (I := fun g => g.store.Consistent)
        (fun c hlists => Engine.lists_consistent hlists) (fun pass => e.work_consistent pass)
        clock crew true .recommendations .addRecommendations {} { backend := f } hcons
  | run clock crew sink options =>
      exact Engine.keeps_run (I := fun g => g.store.Consistent)
        (fun c hlists => Engine.lists_consistent hlists) (fun pass => e.work_consistent pass)
        clock crew sink options { backend := f } hcons

/-- Steps in any number and order, each with a clock and a configuration of its own. -/
def runAll (f : FaultyStore) (steps : List (Engine × EngineStep)) : FaultyStore :=
  steps.foldl (fun f step => step.2.after step.1 f) f

theorem runAll_consistent {f : FaultyStore} (hcons : f.store.Consistent)
    (steps : List (Engine × EngineStep)) : (runAll f steps).store.Consistent := by
  induction steps generalizing f with
  | nil => exact hcons
  | cons step steps ih => exact ih (step.2.after_consistent step.1 hcons)

/-- **Alerts agree with risk records.**  Whatever faults are to come, any number of steps of any engines leave a
consistent store consistent.  Right after an attempt to assess that saved a record, even one that failed later, the
saved record is stored and, if the attempt has returned, its entity has an open alert exactly when the saved level is
medium or above.  An attempt that succeeds has saved a record. -/
theorem alerts_agree_with_risks {f : FaultyStore} (hcons : f.store.Consistent) (steps : List (Engine × EngineStep)) :
    (runAll f steps).store.Consistent ∧
    ∀ (e : Engine) (entity : EntityRef),
      let g := runAll f steps
      let ended := (e.reassess entity).run g
      ended.2.store.Consistent ∧
      (∀ r ∈ (e.reassess entity).savedRisks g,
        r.entity = entity ∧ ended.2.store.riskRecord? entity = some r ∧
          (ended.1 ≠ .error .word → (ended.2.store.HasOpenAlert entity ↔ .medium ≤ r.level))) ∧
      ((∃ o, ended.1 = .ok o) → (e.reassess entity).savedRisks g ≠ []) := by
  have hsteps := runAll_consistent hcons steps
  refine ⟨hsteps, fun e entity => ?_⟩
  have hattempted := e.reassess_attempts entity hsteps
  refine ⟨hattempted.consistent, hattempted.follows, ?_⟩
  rintro ⟨o, hok⟩
  exact e.reassess_savesOnSuccess entity _ _ o (Prod.ext hok rfl)

/-- The only part is assessed by a store that will fail to log its event: its record is saved at high risk and its
alert opens before the attempt fails.  Record and alert agree. -/
theorem attempt_with_faults_keeps_agreement :
    let e := Engine.standardOn Store.sampleDay
    let f : FaultyStore := ⟨Store.oneSource, { failingEventOnce := true }⟩
    let ended := (e.reassess (.part ⟨10⟩)).run f
    let lost := "injected failure logging \"High supply chain risk detected: Gearbox housing\""
    f.store.Consistent ∧ ended.1 = .error (.failure (.transient lost)) ∧ ended.2.store.Consistent ∧
      ∃ r, (e.reassess (.part ⟨10⟩)).savedRisks f = [r] ∧ r.level = .high ∧
        ended.2.store.riskRecord? (.part ⟨10⟩) = some r ∧ ended.2.store.HasOpenAlert (.part ⟨10⟩) := by
  intro e f ended lost
  have hcons : f.store.Consistent := ⟨by decide, fun a hmem => nomatch hmem⟩
  have hfails : ended.1 = .error (.failure (.transient lost)) := by decide +kernel
  have hlevels : ((e.reassess (.part ⟨10⟩)).savedRisks f).map (·.level) = [.high] := by decide +kernel
  obtain ⟨r, hsaved, hlevel⟩ := List.map_eq_singleton_iff.1 hlevels
  obtain ⟨hends, hagrees, -⟩ := (alerts_agree_with_risks hcons []).2 e (.part ⟨10⟩)
  obtain ⟨-, hstored, hopen⟩ := hagrees r (hsaved ▸ List.mem_singleton_self r)
  refine ⟨hcons, hfails, hends, r, hsaved, hlevel, hstored, (hopen ?_).2 (hlevel ▸ by decide)⟩
  exact fun hword => nomatch hfails.symm.trans hword

end SupplyRisk
