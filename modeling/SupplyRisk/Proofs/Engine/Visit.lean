import SupplyRisk.Proofs.Engine.Masking
import SupplyRisk.Proofs.Engine.Tour

/-!
# Visits where no fault strikes

On a store without faults nothing that fails gets better by repetition, so a visit is a single attempt
(`visitOn_plain`).  Entities that are marked missing fail at their first read, whatever the other faults are
(`visitOn_missing`); where all other entities are spared, their visits do what they do without faults
(`visitOn_spared`).
-/

namespace SupplyRisk

variable {α : Type}

@[simp] theorem FaultyStore.store_plain (s : Store) : (plain s).store = s := rfl

/-- Work whose first failure earns no repetition is done once. -/
theorem retryingUntil_once {p : RetryPolicy} {late : Nat → Bool} {work : FaultyStore → Except Halt α × FaultyStore}
    {f : FaultyStore} (hrefuses : ∀ error, (work f).1 = .error (.failure error) → p.allows error 0 0 = false) :
    retryingUntil p late work 0 0 f = work f := by
  cases hwork : work f with
  | mk result g =>
      rw [hwork] at hrefuses
      cases result with
      | ok a => exact (retryingUntil_done fun e s' h => nomatch hwork.symm.trans h).trans hwork
      | error cause =>
          cases cause with
          | calendar => exact (retryingUntil_done fun e s' h => nomatch hwork.symm.trans h).trans hwork
          | word => exact (retryingUntil_done fun e s' h => nomatch hwork.symm.trans h).trans hwork
          | failure error => exact (retryingUntil_refused hwork (by simp [hrefuses error rfl])).trans hwork

/-- Work that fails for good is not repeated. -/
theorem retryingUntil_final {p : RetryPolicy} {late : Nat → Bool} {work : FaultyStore → Except Halt α × FaultyStore}
    {f : FaultyStore} (hfinal : ∀ error, (work f).1 = .error (.failure error) → error.isRetryable = false) :
    retryingUntil p late work 0 0 f = work f :=
  retryingUntil_once fun error herror => RetryPolicy.allows_of_final (hfinal error herror) 0 0

namespace Faults

variable {faults : Faults}

theorem spares_save (hrace : ∀ n, faults.conflictOnce.contains n = false) {c : StoreCall} {r : RiskRecord}
    (hsave : c.savedRisk? = some r) : faults.Spares c where
  passes s := by rw [FaultyStore.perform_eq_race hsave, FaultyStore.race_of_no_fault (hrace _)]
  unraced s := by rw [FaultyStore.raced_of_save hsave, FaultyStore.race_of_no_fault (hrace _)]
  fits s := by rw [FaultyStore.raceFits_of_save hsave, hrace]; rfl

end Faults

/-! ## The calls of the work on an entity -/

/-- The calls that work on an entity can make: it reads the history and the record of this entity, saves records,
and goes on with alerts, events and suggestions. -/
inductive StoreCall.WorksOn : EntityRef → StoreCall → Prop
  | supplierHistory (id : SupplierId) : WorksOn (.supplier id) (.supplierHistory id)
  | partHistory (id : PartId) : WorksOn (.part id) (.partHistory id)
  | supplierRisk (id : SupplierId) (threshold : UInt8) : WorksOn (.supplier id) (.supplierRisk id threshold)
  | partRisk (id : PartId) : WorksOn (.part id) (.partRisk id)
  | save {entity : EntityRef} {c : StoreCall} {r : RiskRecord} (hsave : c.savedRisk? = some r) : WorksOn entity c
  | onAlerts {entity : EntityRef} {c : StoreCall} (hc : c.onAlerts = true) : WorksOn entity c
  | insertEvent {entity : EntityRef} (draft : EventDraft) : WorksOn entity (.insertEvent draft)
  | onSuggestions {entity : EntityRef} {c : StoreCall} (hc : c.onSuggestions = true) : WorksOn entity c

/-- Faults that leave the work on an entity alone. -/
structure Faults.Leaves (faults : Faults) (entity : EntityRef) : Prop where
  missing : faults.missing.contains entity.rank = false
  transients : faults.transientOnce.contains entity.rank = false
  conflicts : ∀ n, faults.conflictOnce.contains n = false
  events : faults.failingEventOnce = false

theorem Faults.Leaves.spares {faults : Faults} {entity : EntityRef} {c : StoreCall}
    (hleaves : faults.Leaves entity) (hworks : c.WorksOn entity) : faults.Spares c := by
  have hhistory (hnone : c.savedRisk? = none) (hc : ∀ f : FaultyStore, f.perform c = f.readHistory entity c) :
      faults.Spares c := by
    refine .of_unsaved hnone fun s => ?_
    simp only [hc, FaultyStore.readHistory, hleaves.missing, hleaves.transients, Bool.false_eq_true, if_false]
  have hrisk (hnone : c.savedRisk? = none) (hc : ∀ f : FaultyStore, f.perform c = f.readRisk entity c) :
      faults.Spares c := by
    refine .of_unsaved hnone fun s => ?_
    simp only [hc, FaultyStore.readRisk, hleaves.missing, Bool.false_eq_true, if_false]
  cases hworks with
  | supplierHistory id => exact hhistory rfl fun f => rfl
  | partHistory id => exact hhistory rfl fun f => rfl
  | supplierRisk id threshold => exact hrisk rfl fun f => rfl
  | partRisk id => exact hrisk rfl fun f => rfl
  | save hsave => exact Faults.spares_save hleaves.conflicts hsave
  | onAlerts hc => exact faults.spares_onAlerts hc
  | insertEvent draft => exact Faults.spares_insertEvent hleaves.events draft
  | onSuggestions hc => exact faults.spares_onSuggestions hc

/-- Nothing that work on an entity does reaches the inventory. -/
theorem Store.inventory_stable (i : Inventory) :
    Stable (fun c => ∃ entity, c.WorksOn entity) (fun t => t.inventory = i) where
  effect hworks heffect hsame := by
    obtain ⟨entity, hworks⟩ := hworks
    cases heffect with
    | stockThreshold threshold hfind =>
        cases hworks with
        | save hsave => cases hsave
        | onAlerts hc => cases hc
        | onSuggestions hc => cases hc
    | _ => exact hsame
  bumpSupplier t id hsame := by
    unfold bumpSupplierRisk
    split <;> exact hsame
  bumpPart t id hsame := by
    unfold bumpPartRisk
    split <;> exact hsame

namespace Engine

variable {e : Engine} {pass : Pass} {entity : EntityRef} {f : FaultyStore}

theorem only_reassess (e : Engine) (entity : EntityRef) :
    (e.reassess entity).Only (StoreCall.WorksOn entity) := by
  have hsettling (context : AlertContext) (triggered : Bool) (draft : EventDraft)
      (g : AlertOutcome → Bool → Outcome) :
      Script.Only (StoreCall.WorksOn entity) (do
        let outcome ← context.reconcile e.now
        let created ← logPendingEvent outcome.alert triggered draft
        return g outcome created) := by
    refine Script.only_bind (Script.only_mono (context.only_reconcile e.now) fun c => .onAlerts) fun outcome => ?_
    refine Script.only_bind (Script.only_mono (only_logPendingEvent ..) ?_) fun created => trivial
    rintro c (⟨draft, rfl⟩ | ⟨a, event, -, rfl⟩)
    · exact .insertEvent draft
    · exact .onAlerts rfl
  cases entity with
  | supplier id =>
      refine Script.only_bind (Script.only_ask (.supplierHistory id)) fun h => ?_
      refine Script.only_bind (Script.only_ask (.supplierRisk id _)) fun record => ?_
      refine Script.only_bind ?_ fun saved => hsettling _ _ _ _
      refine Script.only_bind (Script.only_inCalendar _) fun start => ?_
      refine Script.only_bind (Script.only_inCalendar _) fun assessed => ?_
      exact Script.only_bind (Script.only_ask (.save rfl)) fun saved => trivial
  | part id =>
      refine Script.only_bind (Script.only_ask (.partHistory id)) fun h => ?_
      refine Script.only_bind (Script.only_ask (.partRisk id)) fun record => ?_
      refine Script.only_bind ?_ fun saved => hsettling _ _ _ _
      exact Script.only_bind (Script.only_inCalendar _) fun start => Script.only_ask (.save rfl)

theorem only_work (e : Engine) (pass : Pass) (entity : EntityRef) :
    (e.work pass entity).Only (StoreCall.WorksOn entity) := by
  cases pass with
  | suppliers => exact e.only_reassess entity
  | parts => exact e.only_reassess entity
  | recommendations =>
      cases entity with
      | supplier id => trivial
      | part id =>
          refine Script.only_bind ?_ fun created => trivial
          refine Script.only_bind (Script.only_ask (.partHistory id)) fun history => ?_
          refine Script.only_bind (Script.only_ask (.partRisk id)) fun record => ?_
          exact Script.only_mono (Suggestion.only_generate _ _ _) fun c => .onSuggestions

theorem inventory_work (e : Engine) (pass : Pass) (entity : EntityRef) (f : FaultyStore) :
    ((e.work pass entity).run f).2.store.inventory = f.store.inventory :=
  Script.run_stable (Store.inventory_stable _) (Script.only_mono (e.only_work pass entity) fun _ h => ⟨_, h⟩) f rfl

/-! ## Visits -/

/-- On a store without faults nothing that fails gets better by repetition. -/
theorem work_final (e : Engine) (pass : Pass) (entity : EntityRef) (s : Store) {error : RiskError}
    (hrun : ((e.work pass entity).run (.plain s)).1 = .error (.failure error)) : error.isRetryable = false := by
  have hmasked : (FaultyStore.plain s).faults.Masked .immediate :=
    ⟨rfl, by decide, .inr ⟨by decide, .inr rfl⟩, fun _ => rfl, rfl⟩
  have hprogress := e.work_progress (f := .plain s) pass entity hmasked
  generalize (e.work pass entity).run (.plain s) = ended at hrun hprogress
  cases hprogress with
  | ends hresult hfinal hwithin => exact hfinal error hrun
  | conflict expected found hresult hless hsame hwithin => cases hless
  | transient message hresult hsame hless hwithin => cases hless
  | runsOut => cases hrun

theorem visitOn_plain (e : Engine) (pass : Pass) (entity : EntityRef) (s : Store) :
    e.visitOn pass entity (.plain s) = Visit.ofAttempt entity ((e.work pass entity).run (.plain s)) := by
  rw [visitOn, retrying, retryingUntil_final fun error => e.work_final pass entity s]

/-- A visit without faults is answered, or the program ends; no fault comes up. -/
theorem visitOn_plain_cases (e : Engine) (pass : Pass) (entity : EntityRef) (s : Store) :
    ∃ t, (∃ v, e.visitOn pass entity (.plain s) = .ok v (.plain t)) ∨
      ∃ cause, cause.Ends ∧ e.visitOn pass entity (.plain s) = .error cause (.plain t) := by
  rw [visitOn_plain]
  have hplain := (e.work pass entity).run_plain s
  generalize (e.work pass entity).run (.plain s) = ended at hplain
  obtain ⟨result, g⟩ := ended
  obtain ⟨t, rfl⟩ : ∃ t, g = .plain t := ⟨_, hplain⟩
  refine ⟨t, ?_⟩
  cases result with
  | ok outcome => exact .inl ⟨_, rfl⟩
  | error cause =>
      cases cause with
      | failure error => exact .inl ⟨_, rfl⟩
      | calendar => exact .inr ⟨_, .calendar, rfl⟩
      | word => exact .inr ⟨_, .word, rfl⟩

/-- A visit that no fault meets does what it does without faults. -/
theorem visitOn_spared (e : Engine) (pass : Pass) (hleaves : f.faults.Leaves entity) :
    e.visitOn pass entity f =
      match e.visitOn pass entity (.plain f.store) with
      | .ok v g => .ok v { f with store := g.store }
      | .error cause g => .error cause { f with store := g.store } := by
  have hrun := Script.run_spared (Script.only_mono (e.only_work pass entity) fun _ => hleaves.spares)
  have hfinal (error : RiskError) (herror : ((e.work pass entity).run f).1 = .error (.failure error)) :
      error.isRetryable = false := by
    rw [hrun] at herror
    exact e.work_final pass entity f.store herror
  rw [visitOn_plain, visitOn, retrying, retryingUntil_final hfinal, hrun]
  obtain ⟨result, g⟩ := (e.work pass entity).run (.plain f.store)
  cases result with
  | ok outcome => rfl
  | error cause => cases cause <;> rfl

/-- What a pass does with a missing entity fails at its first read; only parts are looked up for
recommendations. -/
theorem visitOn_missing (e : Engine) (hmissing : f.faults.missing.contains entity.rank = true)
    (hpart : pass = .recommendations → ∃ id, entity = .part id) :
    e.visitOn pass entity f = .ok ⟨entity, .error (.notFound entity)⟩ f := by
  have hread {c : StoreCall} {α : Type} (rest : c.Answer → Script α) (hroom : f.hasRoom c = true)
      (hc : f.perform c = f.readHistory entity c) :
      (Script.ask c >>= rest).run f = (.error (.failure (.notFound entity)), f) := by
    rw [Script.run_bind, Script.run_ask hroom, hc, FaultyStore.readHistory_of_missing c hmissing]
  have hreassess : (e.reassess entity).run f = (.error (.failure (.notFound entity)), f) := by
    cases entity with
    | supplier id => exact hread _ rfl rfl
    | part id => exact hread _ rfl rfl
  have hrun : (e.work pass entity).run f = (.error (.failure (.notFound entity)), f) := by
    cases pass with
    | suppliers => exact hreassess
    | parts => exact hreassess
    | recommendations =>
        obtain ⟨id, rfl⟩ := hpart rfl
        exact recommend_run_of_unread (FaultyStore.readHistory_of_missing (.partHistory id) hmissing)
  rw [visitOn, retrying, retryingUntil_final fun error herror => ?_, hrun]
  · rfl
  · rw [hrun] at herror
    cases herror
    rfl

end Engine

end SupplyRisk
