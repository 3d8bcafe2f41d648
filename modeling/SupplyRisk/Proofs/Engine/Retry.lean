import SupplyRisk.Proofs.Engine.Attempts
import SupplyRisk.Proofs.Store.Unversioned

/-!
# What retries make up for

`Script.result` is what a script comes to on a store without faults, up to the versions of risk records.  An
attempt makes `Progress` when it either ends with that result or has used up a fault and left a store on which the
script still comes to it, unless it runs out of versions.  Every attempt that fails for a fault leaves one fault fewer
to come, so a budget for the faults ahead is enough: retried work ends with the result of the work without faults
(`retrying_masks`).
-/

namespace SupplyRisk

variable {α : Type}

/-! ## Calls that no fault touches -/

/-- The faults make no difference to a call, whatever the store. -/
structure Faults.Spares (faults : Faults) (c : StoreCall) : Prop where
  passes : ∀ s : Store, FaultyStore.perform ⟨s, faults⟩ c = FaultyStore.pass ⟨s, faults⟩ c
  unraced : ∀ s : Store, FaultyStore.raced ⟨s, faults⟩ c = ⟨s, faults⟩
  fits : ∀ s : Store, FaultyStore.raceFits ⟨s, faults⟩ c = true

namespace Faults

variable {faults : Faults} {c : StoreCall}

/-- Only saves are raced. -/
theorem Spares.of_unsaved (hnone : c.savedRisk? = none)
    (hpasses : ∀ s : Store, FaultyStore.perform ⟨s, faults⟩ c = FaultyStore.pass ⟨s, faults⟩ c) : faults.Spares c :=
  ⟨hpasses, fun _ => FaultyStore.raced_of_unsaved hnone, fun _ => FaultyStore.raceFits_of_unsaved hnone⟩

theorem spares_none (c : StoreCall) : ({} : Faults).Spares c := by
  refine ⟨fun s => ?_, fun s => ?_, fun s => ?_⟩ <;> cases c <;> rfl

/-- A call that is spared finds the room that it finds without faults, and changes nothing when it is given up. -/
theorem Spares.hasRoom (hspares : faults.Spares c) (s : Store) :
    FaultyStore.hasRoom ⟨s, faults⟩ c = (FaultyStore.plain s).hasRoom c := by
  have hplain := spares_none c
  have hanswer : (FaultyStore.pass ⟨s, faults⟩ c).1.isOk = (FaultyStore.pass ⟨s, {}⟩ c).1.isOk := by
    unfold FaultyStore.pass
    dsimp only
    cases s.perform c <;> rfl
  rw [FaultyStore.hasRoom, FaultyStore.hasRoom, FaultyStore.plain, hspares.passes, hspares.unraced, hspares.fits,
    hplain.passes, hplain.unraced, hplain.fits, hanswer]

theorem Spares.giveUp (hspares : faults.Spares c) (s : Store) : FaultyStore.giveUp ⟨s, faults⟩ c = ⟨s, faults⟩ := by
  rw [FaultyStore.giveUp, if_pos (hspares.fits s), hspares.unraced]

end Faults

namespace Script

/-- A script whose calls are spared does what it does without faults. -/
theorem run_spared {x : Script α} {f : FaultyStore} (hx : x.Only f.faults.Spares) :
    x.run f =
      ((x.run (.plain f.store)).1, { f with store := (x.run (.plain f.store)).2.store }) := by
  obtain ⟨s, faults⟩ := f
  induction x generalizing s with
  | done a => rfl
  | stop cause => rfl
  | call c next ih =>
      have hroom := hx.1.hasRoom s
      by_cases hplain : (FaultyStore.plain s).hasRoom c = true
      · rw [run_call (hroom.trans hplain), run_call hplain, hx.1.passes, FaultyStore.perform_plain, FaultyStore.pass]
        dsimp only
        cases s.perform c with
        | error e => exact ih _ s (hx.2 _)
        | ok result => exact ih _ result.2 (hx.2 _)
      · have hgive : (FaultyStore.plain s).giveUp c = .plain s := (Faults.spares_none c).giveUp s
        rw [run_call_of_full (hroom ▸ hplain), run_call_of_full hplain, hx.1.giveUp, hgive]
        rfl

/-- A store without faults stays one. -/
theorem run_plain (x : Script α) (s : Store) :
    (x.run (.plain s)).2 = .plain (x.run (.plain s)).2.store := by
  have hrun := run_spared (f := .plain s) (only_mono (only_all x) fun c _ => Faults.spares_none c)
  rw [hrun]
  rfl

/-- What a script comes to without faults, from versions that leave room for all that is to be saved; versions are left
out. -/
def result (x : Script α) (s : Store) : Except Halt α × Store :=
  ((x.run (.plain s.unversioned)).1, (x.run (.plain s.unversioned)).2.store.unversioned)

/-- On stores that agree up to versions, a script comes to the same. -/
theorem result_congr (x : Script α) {s t : Store} (hsame : s.unversioned = t.unversioned) :
    x.result s = x.result t := by
  rw [result, result, hsame]

/-- A script without calls about risk records comes to that from any versions. -/
theorem result_of_ignores {x : Script α} (hx : x.Only (fun c => c.ignoresRisks = true)) (s : Store) :
    x.result s = ((x.run (.plain s)).1, (x.run (.plain s)).2.store.unversioned) := by
  have hrun := run_unversioned hx (.plain s)
  have hplain : (FaultyStore.plain s).unversioned = .plain s.unversioned := rfl
  rw [hplain] at hrun
  simp only [result, hrun]
  exact congrArg (Prod.mk _) (Store.unversioned_unversioned _)

end Script

/-! ## Errors that repeating does not mend -/

theorem checkPercentage_final {field : String} {value : Int} {error : RiskError}
    (hcheck : checkPercentage field value = .error error) : error.isRetryable = false := by
  unfold checkPercentage at hcheck
  split at hcheck
  · cases hcheck
  · cases hcheck
    rfl

/-- Only a save is refused for a reason that may go away. -/
theorem Store.perform_final {s : Store} {c : StoreCall} {error : RiskError}
    (hsave : c.savedRisk? = none) (hrefused : s.perform c = .error error) :
    error.isRetryable = false := by
  cases c with
  | saveSupplierRisk record => cases hsave
  | savePartRisk record => cases hsave
  | supplierHistory id =>
      have hhistory := map_eq_error_iff.1 hrefused
      unfold supplierHistory at hhistory
      split at hhistory <;> cases hhistory
      rfl
  | partHistory id =>
      have hhistory := map_eq_error_iff.1 hrefused
      unfold partHistory at hhistory
      split at hhistory <;> cases hhistory
      rfl
  | setPartStockThreshold id threshold =>
      have hset := map_eq_error_iff.1 hrefused
      unfold setPartStockThreshold at hset
      split at hset <;> cases hset
      rfl
  | supplierRisk id threshold =>
      simp only [perform, supplierRisk] at hrefused
      split at hrefused
      · cases hrefused
      · split at hrefused <;> cases hrefused
        rfl
  | partRisk id =>
      simp only [perform, partRisk] at hrefused
      split at hrefused
      · cases hrefused
      · split at hrefused <;> cases hrefused
        rfl
  | insertAlert draft =>
      simp only [perform, insertAlert] at hrefused
      split at hrefused <;> cases hrefused
      rfl
  | updateAlert alert =>
      have hupdate := map_eq_error_iff.1 hrefused
      unfold updateAlert at hupdate
      split at hupdate
      · split at hupdate <;> cases hupdate
        rfl
      · cases hupdate
        rfl
  | alert id =>
      have halert := map_eq_error_iff.1 hrefused
      unfold alert at halert
      split at halert <;> cases halert
      rfl
  | insertRecommendation draft =>
      simp only [perform, insertRecommendation, RecommendationDraft.check] at hrefused
      cases hpercentage : checkPercentage "similarity_score" draft.similarity.toNat with
      | error error' =>
          rw [hpercentage] at hrefused
          cases hrefused
          exact checkPercentage_final hpercentage
      | ok value =>
          rw [hpercentage] at hrefused
          change (if _ then _ else _) = _ at hrefused
          split at hrefused <;> cases hrefused
          rfl
  | updateRecommendation record =>
      have hupdate := map_eq_error_iff.1 hrefused
      unfold updateRecommendation at hupdate
      split at hupdate <;> cases hupdate
      rfl
  | recommendation id =>
      have hread := map_eq_error_iff.1 hrefused
      unfold recommendation at hread
      split at hread <;> cases hread
      rfl
  | resolveEvent id notes on =>
      simp only [perform, resolveEvent] at hrefused
      split at hrefused <;> cases hrefused
      rfl
  | _ => cases hrefused

namespace Script

variable {α β : Type}

/-- The script saves nothing, and passes on only errors that repeating does not mend. -/
def Final : Script α → Prop
  | done _ => True
  | stop cause => ∀ error, cause = .failure error → error.isRetryable = false
  | call c next => c.savedRisk? = none ∧ ∀ answer : Except RiskError c.Answer,
      (∀ error, answer = .error error → error.isRetryable = false) → (next answer).Final

theorem final_bind {x : Script α} {g : α → Script β} (hx : x.Final) (hg : ∀ a, (g a).Final) :
    (x >>= g).Final := by
  induction x with
  | done a => exact hg a
  | stop cause => exact hx
  | call c next ih => exact ⟨hx.1, fun answer hanswer => ih answer (hx.2 answer hanswer)⟩

theorem final_ask {c : StoreCall} (hsave : c.savedRisk? = none) : (ask c).Final := by
  refine ⟨hsave, fun answer hanswer => ?_⟩
  cases answer with
  | ok a => trivial
  | error e =>
      intro error herror
      cases herror
      exact hanswer e rfl

/-- On a store without faults, repeating such a script mends nothing. -/
theorem Final.run_plain {x : Script α} (hx : x.Final) {s : Store} {error : RiskError}
    (hrun : (x.run (.plain s)).1 = .error (.failure error)) : error.isRetryable = false := by
  induction x generalizing s with
  | done a => cases hrun
  | stop cause =>
      cases hrun
      exact hx error rfl
  | call c next ih =>
      by_cases hroom : (FaultyStore.plain s).hasRoom c = true
      rotate_left
      · rw [run_call_of_full hroom] at hrun
        cases hrun
      rw [run_call hroom, FaultyStore.perform_plain] at hrun
      cases hperform : s.perform c with
      | ok result =>
          rw [hperform] at hrun
          exact ih _ (hx.2 (.ok result.1) fun e he => by cases he) hrun
      | error e =>
          rw [hperform] at hrun
          refine ih _ (hx.2 _ fun e' he => ?_) hrun
          cases he
          exact Store.perform_final hx.1 hperform

end Script

/-! ## Faults ahead -/

namespace Faults

/-- No fault of `g` that matters beyond one entity is new. -/
structure Within (g f : Faults) : Prop where
  missing : g.missing = f.missing
  transients : ∀ n, g.transientOnce.contains n = true → f.transientOnce.contains n = true
  listings : g.failingListings = f.failingListings
  events : g.failingEventOnce = true → f.failingEventOnce = true

theorem Within.refl (f : Faults) : f.Within f := ⟨rfl, fun _ h => h, rfl, fun h => h⟩

theorem Within.trans {f g h : Faults} (hgf : g.Within f) (hhg : h.Within g) : h.Within f :=
  ⟨hhg.missing.trans hgf.missing, fun n hn => hgf.transients n (hhg.transients n hn),
    hhg.listings.trans hgf.listings, fun he => hgf.events (hhg.events he)⟩

/-- The conflicts that work on an entity can meet. -/
def conflictsAhead (f : Faults) (entity : EntityRef) : Nat :=
  (f.conflictOnce.contains entity.rank).toNat

/-- The transient failures that work on an entity can meet. -/
def transientsAhead (f : Faults) (entity : EntityRef) : Nat :=
  (f.transientOnce.contains entity.rank).toNat + f.failingEventOnce.toNat

/-- One-shot faults that the budgets of a retry policy cover.  One retry of transient failures is enough as long
as work on an entity cannot meet two of them. -/
structure Masked (f : Faults) (p : RetryPolicy) : Prop where
  enabled : p.enabled = true
  conflicts : 1 ≤ p.maxRetries.toNat
  transients : 2 ≤ p.transientRetries.toNat ∨ 1 ≤ p.transientRetries.toNat ∧
    ((∀ n, f.transientOnce.contains n = false) ∨ f.failingEventOnce = false)
  missing : ∀ n, f.missing.contains n = false
  listings : f.failingListings = false

variable {f g : Faults} {p : RetryPolicy}

theorem Masked.within (hmasked : f.Masked p) (hwithin : g.Within f) : g.Masked p where
  enabled := hmasked.enabled
  conflicts := hmasked.conflicts
  transients := by
    refine hmasked.transients.imp_right (And.imp_right (Or.imp (fun hnone n => ?_) fun hevent => ?_))
    · exact Bool.eq_false_iff.2 fun hg => Bool.eq_false_iff.1 (hnone n) (hwithin.transients n hg)
    · exact Bool.eq_false_iff.2 fun hg => Bool.eq_false_iff.1 hevent (hwithin.events hg)
  missing n := hwithin.missing ▸ hmasked.missing n
  listings := hwithin.listings.trans hmasked.listings

theorem Masked.conflictsAhead_le (hmasked : f.Masked p) (entity : EntityRef) :
    f.conflictsAhead entity ≤ p.maxRetries.toNat :=
  Nat.le_trans (Bool.toNat_le _) hmasked.conflicts

theorem Masked.transientsAhead_le (hmasked : f.Masked p) (entity : EntityRef) :
    f.transientsAhead entity ≤ p.transientRetries.toNat := by
  have hread : (f.transientOnce.contains entity.rank).toNat ≤ 1 := Bool.toNat_le _
  have hevent : f.failingEventOnce.toNat ≤ 1 := Bool.toNat_le _
  unfold transientsAhead
  rcases hmasked.transients with htwo | ⟨hone, hnone | hnone⟩
  · omega
  · rw [hnone, Bool.toNat_false]
    omega
  · rw [hnone, Bool.toNat_false]
    omega

end Faults

/-! ## Attempts -/

/-- What an attempt at the work on an entity brings about: the result without faults, a fault that was used up with
that result still to be had, or the end of the numbers. -/
inductive Progress (x : Script α) (entity : EntityRef) (f : FaultyStore) :
    Except Halt α × FaultyStore → Prop
  | ends {r : Except Halt α} {g : FaultyStore} (hresult : x.result f.store = (r, g.store.unversioned))
      (hfinal : ∀ error, r = .error (.failure error) → error.isRetryable = false)
      (hwithin : g.faults.Within f.faults) : Progress x entity f (r, g)
  | conflict {g : FaultyStore} (expected found : UInt64) (hresult : x.result g.store = x.result f.store)
      (hconflicts : g.faults.conflictsAhead entity + 1 = f.faults.conflictsAhead entity)
      (htransients : g.faults.transientsAhead entity = f.faults.transientsAhead entity)
      (hwithin : g.faults.Within f.faults) :
      Progress x entity f (.error (.failure (.conflict entity expected found)), g)
  | transient {g : FaultyStore} (message : String) (hresult : x.result g.store = x.result f.store)
      (hconflicts : g.faults.conflictsAhead entity = f.faults.conflictsAhead entity)
      (htransients : g.faults.transientsAhead entity + 1 = f.faults.transientsAhead entity)
      (hwithin : g.faults.Within f.faults) :
      Progress x entity f (.error (.failure (.transient message)), g)
  | runsOut (g : FaultyStore) : Progress x entity f (.error .word, g)

theorem RetryPolicy.allows_of_final {p : RetryPolicy} {error : RiskError}
    (hfinal : error.isRetryable = false) (conflicts transients : Nat) :
    p.allows error conflicts transients = false := by
  cases error <;> simp_all [allows, RiskError.isRetryable, RiskError.isConflict, RiskError.isTransient]

/-- While every attempt makes progress and the budgets cover the faults ahead, retried work ends with the result
of the work without faults, unless it runs out of numbers. -/
theorem retrying_masks {p : RetryPolicy} {x : Script α} {entity : EntityRef}
    (hprogress : ∀ f, f.faults.Masked p → Progress x entity f (x.run f))
    (conflicts transients : Nat) (f : FaultyStore) (hmasked : f.faults.Masked p)
    (hconflicts : conflicts + f.faults.conflictsAhead entity ≤ p.maxRetries.toNat)
    (htransients : transients + f.faults.transientsAhead entity ≤ p.transientRetries.toNat) :
    ∃ r g, retrying p x.run conflicts transients f = (r, g) ∧
      (r = .error .word ∨ x.result f.store = (r, g.store.unversioned) ∧ g.faults.Within f.faults) := by
  unfold retrying
  -- There is always time, so the cases are a conflict, another failure, a failure that is not repeated, and an end.
  induction conflicts, transients, f using retryingUntil.induct p (fun _ => false) x.run with
  | case1 conflicts transients f e f' hrun hallows hlate => cases hlate
  | case2 conflicts transients f e f' hrun hallows hintime hconflict ih =>
      rw [retryingUntil_again hrun hallows hintime, if_pos hconflict]
      have hstep := hprogress f hmasked
      rw [hrun] at hstep
      cases hstep with
      | ends hresult hfinal hwithin =>
          rw [RetryPolicy.allows_of_final (hfinal e rfl)] at hallows
          cases hallows
      | conflict expected found hresult hless hsame hwithin =>
          obtain ⟨r, g, hretry, hr⟩ := ih (hmasked.within hwithin) (by omega) (by omega)
          exact ⟨r, g, hretry, hr.imp_right fun h => ⟨hresult.symm.trans h.1, hwithin.trans h.2⟩⟩
      | transient message hresult hsame hless hwithin => cases hconflict
  | case3 conflicts transients f e f' hrun hallows hintime hconflict ih =>
      rw [retryingUntil_again hrun hallows hintime, if_neg hconflict]
      have hstep := hprogress f hmasked
      rw [hrun] at hstep
      cases hstep with
      | ends hresult hfinal hwithin =>
          rw [RetryPolicy.allows_of_final (hfinal e rfl)] at hallows
          cases hallows
      | conflict expected found hresult hless hsame hwithin => exact absurd rfl hconflict
      | transient message hresult hsame hless hwithin =>
          obtain ⟨r, g, hretry, hr⟩ := ih (hmasked.within hwithin) (by omega) (by omega)
          exact ⟨r, g, hretry, hr.imp_right fun h => ⟨hresult.symm.trans h.1, hwithin.trans h.2⟩⟩
  | case4 conflicts transients f e f' hrun hallows =>
      rw [retryingUntil_refused hrun hallows, hrun]
      have hstep := hprogress f hmasked
      rw [hrun] at hstep
      cases hstep with
      | ends hresult hfinal hwithin => exact ⟨_, f', rfl, .inr ⟨hresult, hwithin⟩⟩
      -- A fault ahead is within its budget, so the policy would have allowed the repetition.
      | conflict expected found hresult hless hsame hwithin =>
          refine absurd ?_ hallows
          simp only [RetryPolicy.allows, hmasked.enabled, Bool.true_and, decide_eq_true_eq]
          omega
      | transient message hresult hsame hless hwithin =>
          refine absurd ?_ hallows
          simp only [RetryPolicy.allows, hmasked.enabled, Bool.true_and, decide_eq_true_eq]
          omega
  | case5 conflicts transients f hother =>
      have hstep := hprogress f hmasked
      rw [retryingUntil_done hother]
      cases hrun : x.run f with
      | mk r g =>
          rw [hrun] at hstep
          cases hstep with
          | ends hresult hfinal hwithin => exact ⟨r, g, rfl, .inr ⟨hresult, hwithin⟩⟩
          | conflict expected found hresult hless hsame hwithin => exact absurd hrun (hother _ g)
          | transient message hresult hsame hless hwithin => exact absurd hrun (hother _ g)
          | runsOut => exact ⟨_, g, rfl, .inl rfl⟩

end SupplyRisk
