import SupplyRisk.Engine.Assess
import SupplyRisk.Proofs.Store.Consistent

/-!
# Attempts to assess

An attempt reads a history and a record, saves the assessed record, reconciles the alert with the saved level and
logs the event that the alert owes.  It can fail at each of its calls.  Failing before the save it has changed no
level; after the save the reconciliation cannot fail, and what follows touches events only.  So whatever becomes
of the attempt, alerts and records agree after it (`reassess_attempts`).  Only where there is no number left for the
alert that is to open, an attempt comes to a halt and the alert is missing.
-/

namespace SupplyRisk

namespace Script

variable {α β : Type}

/-- The risk records that a script saves with success, in order. -/
def savedRisks : Script α → FaultyStore → List RiskRecord
  | done _, _ => []
  | stop _, _ => []
  | call c next, f =>
      if f.hasRoom c then
        (c.answeredRisk? (f.perform c).1).toList ++ (next (f.perform c).1).savedRisks (f.perform c).2
      else []

theorem savedRisks_call {c : StoreCall} {f : FaultyStore} (hroom : f.hasRoom c = true)
    (next : Except RiskError c.Answer → Script α) :
    (call c next).savedRisks f =
      (c.answeredRisk? (f.perform c).1).toList ++ (next (f.perform c).1).savedRisks (f.perform c).2 := by
  rw [savedRisks, if_pos hroom]

theorem savedRisks_call_of_full {c : StoreCall} {f : FaultyStore} (hfull : ¬ f.hasRoom c = true)
    (next : Except RiskError c.Answer → Script α) : (call c next).savedRisks f = [] := by
  rw [savedRisks, if_neg hfull]

theorem savedRisks_bind (x : Script α) (g : α → Script β) (f : FaultyStore) :
    (x >>= g).savedRisks f =
      x.savedRisks f ++
        match x.run f with
        | (.ok a, f') => (g a).savedRisks f'
        | (.error _, _) => [] := by
  induction x generalizing f with
  | done a => rfl
  | stop cause => rfl
  | call c next ih =>
      show (call c fun answer => (next answer).bind g).savedRisks f = _
      by_cases hroom : f.hasRoom c = true
      · have hnext := ih (f.perform c).1 (f.perform c).2
        rw [savedRisks_call hroom, savedRisks_call hroom, run_call hroom, List.append_assoc]
        exact congrArg _ hnext
      · rw [savedRisks_call_of_full hroom, savedRisks_call_of_full hroom, run_call_of_full hroom]
        rfl

theorem savedRisks_of_only {x : Script α} (hx : x.Only (fun c => c.savedRisk? = none))
    (f : FaultyStore) : x.savedRisks f = [] := by
  induction x generalizing f with
  | done a => rfl
  | stop cause => rfl
  | call c next ih =>
      have hnone : c.answeredRisk? (f.perform c).1 = none := by
        have hc := hx.1
        cases c <;> first | rfl | cases hc
      by_cases hroom : f.hasRoom c = true
      · rw [savedRisks_call hroom, hnone, ih _ (hx.2 _)]
        rfl
      · exact savedRisks_call_of_full hroom _

end Script

/-! ## After the save -/

theorem StoreCall.savedRisk?_of_onAlerts {c : StoreCall} (hc : c.onAlerts = true) :
    c.savedRisk? = none := by
  cases c <;> first | rfl | cases hc

/-- The two calls that settle the event of an alert. -/
def SettlesEvent (alert : Option Alert) (c : StoreCall) : Prop :=
  (∃ draft, c = .insertEvent draft) ∨
    ∃ a event, alert = some a ∧ c = .updateAlert (a.recordEvent event)

theorem only_logPendingEvent (alert : Option Alert) (triggered : Bool) (draft : EventDraft) :
    (logPendingEvent alert triggered draft).Only (SettlesEvent alert) := by
  unfold logPendingEvent
  split
  · trivial
  · rename_i a
    split
    · split
      · refine Script.only_bind (Script.only_ask (.inl ⟨draft, rfl⟩)) fun event => ?_
        exact Script.only_bind (Script.only_ask (.inr ⟨a, _, rfl, rfl⟩)) fun _ => trivial
      · exact Script.only_bind (Script.only_ask (.inr ⟨a, _, rfl, rfl⟩)) fun _ => trivial
    · trivial

/-- Logging an event changes no risk record and nothing of an alert but its event. -/
theorem logPendingEvent_agrees {alert : Option Alert} {f : FaultyStore}
    (hmem : ∀ a, alert = some a → a ∈ f.store.alerts.rows) (triggered : Bool) (draft : EventDraft) :
    f.store.Agrees ((logPendingEvent alert triggered draft).run f).2.store := by
  refine Script.run_keeps (I := fun g => f.store.Agrees g.store)
    (only_logPendingEvent alert triggered draft) ?_ ?_ f (.refl f.store)
  rotate_left
  · -- No other writer strikes at these calls.
    rintro c (⟨draft, rfl⟩ | ⟨a, event, ha, rfl⟩) g hagrees
    · exact hagrees
    · exact hagrees
  rintro c (⟨draft, rfl⟩ | ⟨a, event, ha, rfl⟩) g hagrees
  · simp only [FaultyStore.perform]
    split
    · exact hagrees
    · rcases g.pass_effect (.insertEvent draft) with hsame | heffect
      · rwa [hsame]
      · generalize (g.pass (.insertEvent draft)).2.store = t at heffect
        cases heffect with
        | nothing hreads => cases hreads
        | newEvent =>
            refine ⟨fun entity => ?_, hagrees.forth, hagrees.back⟩
            rw [← hagrees.risks entity]
            cases entity <;> rfl
  · show f.store.Agrees (g.pass (.updateAlert (a.recordEvent event))).2.store
    rcases g.pass_effect (.updateAlert (a.recordEvent event)) with hsame | heffect
    · rwa [hsame]
    · generalize (g.pass (.updateAlert (a.recordEvent event))).2.store = t at heffect
      cases heffect with
      | nothing hreads => cases hreads
      | alert hknown hrival => exact hagrees.recordEvent (hmem a ha) event

/-! ## Attempts -/

/-- How an attempt to assess an entity ends and what it leaves behind.  Alerts and records agree, and a record that was
saved is stored; if the attempt returns, the entity has an open alert exactly when the record is at medium or above. -/
structure Attempted {α : Type} (entity : EntityRef) (saved : List RiskRecord) (ended : Except Halt α × FaultyStore) :
    Prop where
  consistent : ended.2.store.Consistent
  follows : ∀ r ∈ saved, r.entity = entity ∧ ended.2.store.riskRecord? entity = some r ∧
    (ended.1 ≠ .error .word → (ended.2.store.HasOpenAlert entity ↔ .medium ≤ r.level))

namespace Script

variable {α β : Type} {entity : EntityRef} {f : FaultyStore}

def Attempts (entity : EntityRef) (x : Script α) (f : FaultyStore) : Prop :=
  Attempted entity (x.savedRisks f) (x.run f)

/-- A first part without saves changes no level, and leaves the rest to the second part. -/
theorem attempts_of_quiet {x : Script α} {g : α → Script β} (hx : x.Only (fun c => c.quiet = true))
    (hcons : f.store.Consistent)
    (hg : ∀ a f', x.run f = (.ok a, f') → f'.store.Consistent → (g a).Attempts entity f') :
    (x >>= g).Attempts entity f := by
  have hsaved : x.savedRisks f = [] :=
    savedRisks_of_only (only_mono hx fun c => StoreCall.savedRisk?_of_quiet) f
  have hcons' : (x.run f).2.store.Consistent := hcons.quiet hx
  unfold Attempts
  rw [savedRisks_bind, run_bind, hsaved, List.nil_append]
  cases hrun : x.run f with
  | mk result f' =>
      rw [hrun] at hcons'
      cases result with
      | ok a => exact hg a f' hrun hcons'
      | error cause => exact ⟨hcons', fun r hr => absurd hr List.not_mem_nil⟩

/-- After an accepted save: the alert is reconciled with the saved level, and its event is logged. -/
theorem settled_after_save {s : Store} {r : RiskRecord} {c : AlertContext} {now : Instant}
    (hcons : s.Consistent) (hput : f.store = s.putRisk r) (hentity : c.entity = r.entity)
    (hlevel : c.level = r.level) (triggered : Bool) (draft : EventDraft) (k : Bool → β) :
    let x := c.reconcile now >>= fun o =>
      logPendingEvent o.alert triggered draft >>= fun b => pure (k b)
    x.savedRisks f = [] ∧ Attempted r.entity [r] (x.run f) := by
  intro x
  have hreconcile := only_mono (c.only_reconcile now) fun call => StoreCall.savedRisk?_of_onAlerts
  -- The saved level may disagree with the alert here.  No fault can keep the reconciliation from mending it.
  obtain ⟨o, t, hrun, hdoes⟩ | ⟨hrun, hlacks⟩ := c.reconcile_run now f
  rotate_left
  · have hx : x.run f = (.error .word, f) := run_bind_of_error hrun _
    have hnone : s.openAlert r.entity = none := by
      have hnone := hlacks.none
      rwa [hput, hentity, Store.openAlert, Store.alerts_putRisk] at hnone
    constructor
    · simp only [x]
      rw [savedRisks_bind, savedRisks_of_only hreconcile, hrun]
      rfl
    · rw [hx]
      refine ⟨hput ▸ hcons.putRisk hnone, fun r' hr' => ?_⟩
      cases List.mem_singleton.1 hr'
      refine ⟨rfl, ?_, fun hreturns => absurd rfl hreturns⟩
      show f.store.riskRecord? r.entity = some r
      rw [hput, Store.riskRecord?_putRisk, if_pos rfl]
  have hone : t.OneOpen := by
    have hput' : f.store.OneOpen := by
      rw [hput]
      exact hcons.oneOpen.congr (Store.alerts_putRisk s r)
    have h := run_stable Store.oneOpen_stable (only_all (c.reconcile now)) f hput'
    rwa [hrun] at h
  rw [hput] at hdoes
  obtain ⟨hconsT, hstored, hhas, halert⟩ := hcons.settle hentity hlevel hdoes hone
  have hagrees := logPendingEvent_agrees (f := { f with store := t }) halert triggered draft
  have hx : (x.run f).2.store =
      ((logPendingEvent o.alert triggered draft).run { f with store := t }).2.store := by
    simp only [x]
    rw [run_bind_of_ok hrun, run_bind]
    cases (logPendingEvent o.alert triggered draft).run { f with store := t } with
    | mk result g => cases result <;> rfl
  constructor
  · have hlog : (logPendingEvent o.alert triggered draft).Only (fun c => c.savedRisk? = none) := by
      refine only_mono (only_logPendingEvent o.alert triggered draft) ?_
      rintro c (⟨draft, rfl⟩ | ⟨a, event, -, rfl⟩)
      · rfl
      · rfl
    simp only [x]
    rw [savedRisks_bind, savedRisks_of_only hreconcile, hrun]
    exact savedRisks_of_only (only_bind hlog fun b => only_pure (k b)) _
  · refine ⟨hx ▸ hconsT.of_agrees hagrees, fun r' hr' => ?_⟩
    cases List.mem_singleton.1 hr'
    rw [hx]
    exact ⟨rfl, (hagrees.risks r.entity).trans hstored,
      fun _ => (hagrees.hasOpenAlert_iff r.entity).trans hhas⟩

/-- A save that is refused changes no level; one that is accepted leaves the rest to the second part. -/
theorem attempts_of_save {c : StoreCall} {r : RiskRecord} {g : c.Answer → Script β}
    (hsave : c.savedRisk? = some r) (hcons : f.store.Consistent)
    (hg : ∀ (answer : c.Answer) (f' : FaultyStore) (s : Store),
      c.answeredRisk? (.ok answer) = some r.next → s.Consistent → f'.store = s.putRisk r.next →
        (g answer).savedRisks f' = [] ∧ Attempted entity [r.next] ((g answer).run f')) :
    (ask c >>= g).Attempts entity f := by
  by_cases hroom : f.hasRoom c = true
  rotate_left
  · -- Without a version for it, nothing is saved, but another writer may have raised the version before.
    have hrun : (ask c >>= g).run f = (.error .word, f.giveUp c) := run_bind_of_error (run_ask_of_full hroom) _
    have hsaved : (ask c >>= g).savedRisks f = [] := by
      rw [savedRisks_bind, run_ask_of_full hroom, ask, savedRisks_call_of_full hroom]
      rfl
    unfold Attempts
    rw [hrun, hsaved]
    exact ⟨hcons.of_sameLevels (f.sameLevels_giveUp c), fun r hr => absurd hr List.not_mem_nil⟩
  obtain ⟨s, hsame, hperform⟩ := FaultyStore.perform_save hsave f
  have hconsS : s.Consistent := hcons.of_sameLevels hsame
  cases hp : f.perform c with
  | mk result f' =>
      rw [hp] at hperform
      rcases hperform with ⟨e, hresult, hstore⟩ | ⟨answer, hanswer, hresult, hstore⟩
      · -- Refused: another writer may have raised the version, which keeps all levels.
        cases hresult
        have hrun : (ask c >>= g).run f = (.error (.failure e), f') := by
          rw [run_bind, run_ask hroom, hp]
        have hsaved : (ask c >>= g).savedRisks f = [] := by
          rw [savedRisks_bind, run_ask hroom, hp, ask, savedRisks_call hroom]
          simp only [hp, List.append_nil, StoreCall.answeredRisk?_error]
          rfl
        unfold Attempts
        rw [hrun, hsaved]
        exact ⟨hstore ▸ hconsS, fun r hr => absurd hr List.not_mem_nil⟩
      · cases hresult
        -- Saved: what comes after it saves nothing more.
        obtain ⟨hquiet, hattempted⟩ := hg answer f' s hanswer hconsS hstore
        have hrun : (ask c >>= g).run f = (g answer).run f' := by
          rw [run_bind, run_ask hroom, hp]
        have hsaved : (ask c >>= g).savedRisks f = [r.next] := by
          rw [savedRisks_bind, run_ask hroom, hp, ask, savedRisks_call hroom]
          simp only [hp, ofExcept, hanswer, hquiet, List.append_nil]
          rfl
        unfold Attempts
        rw [hrun, hsaved]
        exact hattempted

end Script

/-! ## Success -/

namespace Script

variable {α β : Type}

/-- A successful run of the script has saved a record. -/
def SavesOnSuccess (x : Script α) : Prop :=
  ∀ f f' a, x.run f = (.ok a, f') → x.savedRisks f ≠ []

theorem savesOnSuccess_bind_right {x : Script α} {g : α → Script β}
    (hg : ∀ a, (g a).SavesOnSuccess) : (x >>= g).SavesOnSuccess := by
  intro f f' b hrun
  rw [run_bind] at hrun
  rw [savedRisks_bind]
  cases hx : x.run f with
  | mk result f₁ =>
      rw [hx] at hrun
      cases result with
      | ok a => exact List.append_ne_nil_of_right_ne_nil _ (hg a f₁ f' b hrun)
      | error cause => cases hrun

theorem savesOnSuccess_bind_left {x : Script α} (hx : x.SavesOnSuccess) (g : α → Script β) :
    (x >>= g).SavesOnSuccess := by
  intro f f' b hrun
  rw [run_bind] at hrun
  rw [savedRisks_bind]
  cases hrunX : x.run f with
  | mk result f₁ =>
      rw [hrunX] at hrun
      cases result with
      | ok a => exact List.append_ne_nil_of_left_ne_nil (hx f f₁ a hrunX) _
      | error cause => cases hrun

theorem savesOnSuccess_ask {c : StoreCall} {r : RiskRecord} (hsave : c.savedRisk? = some r) :
    (ask c).SavesOnSuccess := by
  intro f f' answer hrun
  obtain ⟨hroom, hperform⟩ := run_ask_eq_ok_iff.1 hrun
  have hanswer : (c.answeredRisk? (f.perform c).1).toList ≠ [] := by
    rw [hperform]
    cases c with
    | saveSupplierRisk record => exact List.cons_ne_nil _ _
    | savePartRisk record => exact List.cons_ne_nil _ _
    | _ => cases hsave
  rw [ask, savedRisks_call hroom]
  exact List.append_ne_nil_of_left_ne_nil hanswer _

end Script

/-! ## Reads -/

/-- The record that a read answers with is stored, whatever the faults. -/
theorem riskRecord?_of_supplierRisk {id : SupplierId} {threshold : UInt8} {f f' : FaultyStore}
    {record : SupplierRisk} (hrun : (Script.ask (.supplierRisk id threshold)).run f = (.ok record, f')) :
    f'.store.riskRecord? (.supplier id) = some (.supplier record) := by
  have hperform : f.store.perform (.supplierRisk id threshold) = .ok (record, f'.store) :=
    FaultyStore.readRisk_eq_ok (Script.perform_of_run_ask hrun)
  obtain ⟨hanswer, hafter⟩ := Store.answerTo_of_perform hperform
  have hread : (f.store.readRisk threshold (.supplier id)).1 = .ok (.supplier record) := by
    rw [Store.readRisk, hanswer]
    rfl
  rw [← hafter]
  exact Store.riskRecord?_readRisk hread

theorem riskRecord?_of_partRisk {id : PartId} {f f' : FaultyStore} {record : PartRisk}
    (hrun : (Script.ask (.partRisk id)).run f = (.ok record, f')) :
    f'.store.riskRecord? (.part id) = some (.part record) := by
  have hperform : f.store.perform (.partRisk id) = .ok (record, f'.store) :=
    FaultyStore.readRisk_eq_ok (Script.perform_of_run_ask hrun)
  obtain ⟨hanswer, hafter⟩ := Store.answerTo_of_perform hperform
  have hread : (f.store.readRisk 0 (.part id)).1 = .ok (.part record) := by
    rw [Store.readRisk, hanswer]
    rfl
  rw [← hafter]
  exact Store.riskRecord?_readRisk hread

/-! ## Suppliers and parts -/

namespace Engine

variable (e : Engine)

theorem assessSupplier_attempts (id : SupplierId) {f : FaultyStore} (hcons : f.store.Consistent) :
    (e.assessSupplier id).Attempts (.supplier id) f := by
  simp only [assessSupplier, saveSupplierAssessment, bind_assoc, pure_bind]
  refine Script.attempts_of_quiet (Script.only_ask rfl) hcons fun history f₁ _ hcons₁ => ?_
  refine Script.attempts_of_quiet (Script.only_ask rfl) hcons₁ fun record f₂ hread hcons₂ => ?_
  refine Script.attempts_of_quiet (Script.only_inCalendar _) hcons₂ fun start f₃ _ hcons₃ => ?_
  refine Script.attempts_of_quiet (Script.only_inCalendar _) hcons₃ fun assessed f₄ hrun hcons₄ => ?_
  have hrecord := Store.entity_of_riskRecord? (riskRecord?_of_supplierRisk hread)
  have hid : (RiskRecord.supplier assessed).entity = .supplier id := by
    obtain ⟨next, -, rfl⟩ := Option.map_eq_some_iff.1 (Script.run_inCalendar_eq_ok hrun)
    exact hrecord
  refine Script.attempts_of_save rfl hcons₄ fun saved f₅ s hanswer hconsS hput => ?_
  rw [← Option.some.inj hanswer] at hput ⊢
  have hentity : (RiskRecord.supplier saved).entity = .supplier id := by
    rw [Option.some.inj hanswer, RiskRecord.entity_next, hid]
  rw [← hentity]
  exact Script.settled_after_save hconsS hput rfl rfl _ _ _

theorem assessPart_attempts (id : PartId) {f : FaultyStore} (hcons : f.store.Consistent) :
    (e.assessPart id).Attempts (.part id) f := by
  simp only [assessPart, savePartAssessment, bind_assoc]
  refine Script.attempts_of_quiet (Script.only_ask rfl) hcons fun history f₁ _ hcons₁ => ?_
  refine Script.attempts_of_quiet (Script.only_ask rfl) hcons₁ fun record f₂ hread hcons₂ => ?_
  refine Script.attempts_of_quiet (Script.only_inCalendar _) hcons₂ fun start f₃ _ hcons₃ => ?_
  have hrecord := Store.entity_of_riskRecord? (riskRecord?_of_partRisk hread)
  refine Script.attempts_of_save rfl hcons₃ fun saved f₄ s hanswer hconsS hput => ?_
  rw [← Option.some.inj hanswer] at hput ⊢
  have hentity : (RiskRecord.part saved).entity = .part id := by
    rw [Option.some.inj hanswer, RiskRecord.entity_next]
    exact hrecord
  rw [← hentity]
  exact Script.settled_after_save hconsS hput rfl rfl _ _ _

/-- An attempt that succeeds has got past its save. -/
theorem reassess_savesOnSuccess (entity : EntityRef) : (e.reassess entity).SavesOnSuccess := by
  cases entity with
  | supplier id =>
      simp only [reassess, assessSupplier, saveSupplierAssessment, bind_assoc, pure_bind]
      refine Script.savesOnSuccess_bind_right fun history => ?_
      refine Script.savesOnSuccess_bind_right fun record => ?_
      refine Script.savesOnSuccess_bind_right fun start => ?_
      refine Script.savesOnSuccess_bind_right fun assessed => ?_
      exact Script.savesOnSuccess_bind_left (Script.savesOnSuccess_ask rfl) _
  | part id =>
      simp only [reassess, assessPart, savePartAssessment, bind_assoc]
      refine Script.savesOnSuccess_bind_right fun history => ?_
      refine Script.savesOnSuccess_bind_right fun record => ?_
      refine Script.savesOnSuccess_bind_right fun start => ?_
      exact Script.savesOnSuccess_bind_left (Script.savesOnSuccess_ask rfl) _

/-- However an attempt ends, alerts and records agree after it. -/
theorem reassess_attempts (entity : EntityRef) {f : FaultyStore} (hcons : f.store.Consistent) :
    (e.reassess entity).Attempts entity f := by
  cases entity with
  | supplier id => exact e.assessSupplier_attempts id hcons
  | part id => exact e.assessPart_attempts id hcons

end Engine

end SupplyRisk
