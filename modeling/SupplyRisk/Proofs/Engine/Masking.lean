import SupplyRisk.Proofs.Engine.Alike
import SupplyRisk.Proofs.Engine.Recommend

/-!
# Retries mask faults

Every attempt of a run makes progress under faults that strike once, so with enough retries the run goes from
entity to entity as it would without the faults.  The relation that carries this through the run is
`MaskedAlike`: both stores agree up to versions, and the budgets cover what faults either has ahead.
-/

namespace SupplyRisk

/-- Stores that agree up to versions, each with faults ahead that the policy masks. -/
structure MaskedAlike (p : RetryPolicy) (f g : FaultyStore) : Prop where
  stores : f.store.unversioned = g.store.unversioned
  left : f.faults.Masked p
  right : g.faults.Masked p

theorem FaultyStore.list_of_succeeding {f : FaultyStore} (target : String) (c : StoreCall)
    (hlists : f.faults.failingListings = false) : f.list target c = f.pass c := by
  rw [list, hlists, if_neg Bool.false_ne_true]

namespace Engine

variable {e : Engine} {f g : FaultyStore}

theorem work_progress (e : Engine) (pass : Pass) (entity : EntityRef) {p : RetryPolicy}
    (hmasked : f.faults.Masked p) :
    Progress (e.work pass entity) entity f ((e.work pass entity).run f) := by
  cases pass with
  | suppliers => exact e.reassess_progress entity f hmasked
  | parts => exact e.reassess_progress entity f hmasked
  | recommendations => exact e.recommend_progress entity f hmasked

/-- The repeated work on an entity ends as the work without faults does, unless one of the two runs out of numbers. -/
theorem attempts_masked (e : Engine) :
    e.AttemptsAlike (MaskedAlike e.config.retry) True (fun _ => false) := by
  intro pass entity f g h
  have hmasks (f : FaultyStore) (hf : f.faults.Masked e.config.retry) :=
    retrying_masks (fun f hf => e.work_progress (f := f) pass entity hf) 0 0 f hf
      (by simpa using hf.conflictsAhead_le entity) (by simpa using hf.transientsAhead_le entity)
  obtain ⟨r, f', hrun, hends⟩ := hmasks f h.left
  obtain ⟨r', g', hrun', hends'⟩ := hmasks g h.right
  unfold retrying at hrun hrun'
  rw [hrun, hrun']
  rcases hends with rfl | ⟨hresult, hwithin⟩
  · exact .inl ⟨trivial, .inl rfl⟩
  rcases hends' with rfl | ⟨hresult', hwithin'⟩
  · exact .inl ⟨trivial, .inr rfl⟩
  rw [Script.result_congr _ h.stores, hresult'] at hresult
  obtain ⟨hanswer, hstore⟩ := Prod.mk.inj hresult
  exact .inr ⟨hanswer.symm, hstore.symm, h.left.within hwithin, h.right.within hwithin'⟩

/-- Nothing that a run lists shows a version. -/
theorem listings_masked (p : RetryPolicy) : ListingsAlike (MaskedAlike p) where
  suppliers f g h := by
    have hsame : f.store.suppliers = g.store.suppliers :=
      congrArg Inventory.suppliers (Store.same_of_unversioned h.stores).1
    exact ⟨_, _, f, g, FaultyStore.list_of_succeeding _ .suppliers h.left.listings,
      FaultyStore.list_of_succeeding _ .suppliers h.right.listings, congrArg Roster.rows hsame, h⟩
  parts f g h := by
    have hsame : f.store.parts = g.store.parts :=
      congrArg Inventory.parts (Store.same_of_unversioned h.stores).1
    exact ⟨_, _, f, g, FaultyStore.list_of_succeeding _ .parts h.left.listings,
      FaultyStore.list_of_succeeding _ .parts h.right.listings, congrArg Roster.rows hsame, h⟩
  partRisks f g h := by
    refine ⟨_, _, f, g, rfl, rfl, ?_, h⟩
    have hsame : f.store.partRisks.rows.map PartRisk.unversioned =
        g.store.partRisks.rows.map PartRisk.unversioned :=
      congrArg (fun s : Store => s.partRisks.rows) h.stores
    have hview (records : List PartRisk) :
        (records.filter (·.isEligible)).map PartRisk.entity =
          ((records.map PartRisk.unversioned).filter (·.isEligible)).map PartRisk.entity := by
      rw [List.filter_map, List.map_map]
      rfl
    dsimp only
    rw [hview f.store.partRisks.rows, hview g.store.partRisks.rows, hsame]
  alerts f g h := by
    have hsame : f.store.alerts = g.store.alerts := (Store.same_of_unversioned h.stores).2.1
    exact ⟨_, _, f, g, rfl, rfl, congrArg Roster.rows hsame, h⟩

/-- **Retries mask faults.**  With retries enabled, at least one for conflicts and two for transient failures,
faults of reading, conflicts with other writers and a failing event log make no difference: a run ends with the
summary of the run without faults and leaves the same behind, up to the versions of risk records, as long as neither
comes to the end of the numbers.  One retry of transient failures is enough if no history read fails or if the event
log does not. -/
theorem retries_mask_faults (e : Engine) (s : Store) (transients conflicts : Roster EntityRef)
    (event : Bool) (henabled : e.config.retry.enabled = true)
    (hconflicts : 1 ≤ e.config.retry.maxRetries)
    (htransients : 2 ≤ e.config.retry.transientRetries ∨
      1 ≤ e.config.retry.transientRetries ∧ (transients = .empty ∨ event = false))
    (w : World) (sink : Sink) (options : RunOptions)
    (hfaulty : ¬ Running.RunsOut (e.run sink options { w with backend :=
      ⟨s, { transientOnce := transients, conflictOnce := conflicts, failingEventOnce := event }⟩ }))
    (hplain : ¬ Running.RunsOut (e.run sink options { w with backend := .plain s })) :
    Running.EndAlike (fun f g => f.store.unversioned = g.store.unversioned)
      (e.run sink options { w with backend :=
        ⟨s, { transientOnce := transients, conflictOnce := conflicts, failingEventOnce := event }⟩ })
      (e.run sink options { w with backend := .plain s }) := by
  have hone : 1 ≤ e.config.retry.transientRetries.toNat := by
    rcases htransients with htwo | ⟨hone, -⟩
    · exact Nat.le_of_succ_le (UInt32.le_iff_toNat_le.1 htwo)
    · exact UInt32.le_iff_toNat_le.1 hone
  have hfaults : Faults.Masked { transientOnce := transients, conflictOnce := conflicts, failingEventOnce := event }
      e.config.retry := by
    refine ⟨henabled, UInt32.le_iff_toNat_le.1 hconflicts, ?_, fun _ => rfl, rfl⟩
    rcases htransients with htwo | ⟨-, rfl | hnone⟩
    · exact .inl (UInt32.le_iff_toNat_le.1 htwo)
    · exact .inr ⟨hone, .inl fun _ => rfl⟩
    · exact .inr ⟨hone, .inr hnone⟩
  -- The clock stands still, so a visit that is begun is in time to its end.
  have hattempts (pass : Pass) (place : Nat) (hintime : e.late .still pass place 0 = false) :
      e.AttemptsAlike (MaskedAlike e.config.retry) True fun repetition => e.late .still pass place (repetition + 1) := by
    have hstill : (fun repetition => e.late .still pass place (repetition + 1)) = fun _ => false :=
      funext fun _ => hintime
    rw [hstill]
    exact e.attempts_masked
  have halike := respects_run hattempts (listings_masked e.config.retry) .caller sink options
    { w with backend := ⟨s, { transientOnce := transients, conflictOnce := conflicts, failingEventOnce := event }⟩ }
    { w with backend := .plain s }
    ⟨⟨rfl, hfaults, ⟨henabled, hfaults.conflicts, .inr ⟨hone, .inr rfl⟩, fun _ => rfl, rfl⟩⟩, rfl, rfl⟩
  rcases halike with hbreaks | hbreaks | hends
  · exact absurd hbreaks.2 hfaulty
  · exact absurd hbreaks.2 hplain
  · exact hends.mono fun f g h => h.stores

/-- Two retries of transient failures, without a delay. -/
def patientEngine : Engine :=
  ⟨{ retry := { transientRetries := 2 } }, {}, .midnight Store.sampleDay⟩

/-- A store with faults that are yet to strike the only part: its history fails to be read, its record loses a race and
its event fails to be logged. -/
def threeFaults : FaultyStore :=
  ⟨Store.oneSource, {
    transientOnce := .ofList [.part ⟨10⟩]
    conflictOnce := .ofList [.part ⟨10⟩]
    failingEventOnce := true }⟩

/-- All three faults strike.  The part is assessed in the fourth attempt, with the summary and up to its version the
store of the run in which it is assessed in the first. -/
theorem three_faults_are_masked :
    let options : RunOptions := { partsOnly := true }
    patientEngine.config.retry.enabled = true ∧ 1 ≤ patientEngine.config.retry.maxRetries ∧
      2 ≤ patientEngine.config.retry.transientRetries ∧
      ∃ summary w w', patientEngine.run .accepting options { backend := threeFaults } = .ok summary w ∧
        patientEngine.run .accepting options { backend := .plain Store.oneSource } = .ok summary w' ∧
        summary.partsAssessed = 1 ∧ summary.riskEventsCreated = 1 ∧
        w.backend.store.unversioned = w'.backend.store.unversioned ∧
        w.backend.faults.transientOnce.rows = [] ∧ w.backend.faults.conflictOnce.rows = [] ∧
        w.backend.faults.failingEventOnce = false ∧
        w.backend.store.partRisks.rows.map (·.version) = [3] ∧
        w'.backend.store.partRisks.rows.map (·.version) = [1] := by
  intro options
  obtain ⟨summary, w, hrun, htest⟩ := Running.exists_of_passes (patientEngine.run .accepting options)
    { backend := threeFaults }
    (fun summary w => summary.partsAssessed = 1 ∧ summary.riskEventsCreated = 1 ∧
      w.backend.faults.transientOnce.rows = [] ∧ w.backend.faults.conflictOnce.rows = [] ∧
      w.backend.faults.failingEventOnce = false ∧ w.backend.store.partRisks.rows.map (·.version) = [3])
    (by decide +kernel)
  obtain ⟨summary', w', hrun', htest'⟩ := Running.exists_of_passes (patientEngine.run .accepting options)
    { backend := .plain Store.oneSource }
    (fun _ w => w.backend.store.partRisks.rows.map (·.version) = [1]) (by decide +kernel)
  have hmasks := retries_mask_faults patientEngine Store.oneSource (.ofList [.part ⟨10⟩]) (.ofList [.part ⟨10⟩]) true
    (by decide) (by decide) (.inl (by decide)) { backend := threeFaults } .accepting options
    (fun ⟨_, hout⟩ => nomatch hrun.symm.trans hout) (fun ⟨_, hout⟩ => nomatch hrun'.symm.trans hout)
  change Running.EndAlike _ (patientEngine.run .accepting options { backend := threeFaults })
    (patientEngine.run .accepting options { backend := .plain Store.oneSource }) at hmasks
  rw [hrun, hrun'] at hmasks
  cases hmasks with
  | ok summary halike =>
      simp only [decide_eq_true_eq] at htest htest'
      obtain ⟨hassessed, hevents, hreads, hconflicts, hevent, hversion⟩ := htest
      exact ⟨by decide, by decide, by decide, summary, w, w', hrun, hrun', hassessed, hevents, halike.backend, hreads,
        hconflicts, hevent, hversion, htest'⟩

end Engine

end SupplyRisk
