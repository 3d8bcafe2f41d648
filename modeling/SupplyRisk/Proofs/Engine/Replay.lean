import SupplyRisk.Proofs.Engine.Retry
import SupplyRisk.Proofs.Engine.Settle

/-!
# Attempts that are repeated

An attempt that fails for a fault may have created a record, saved it, and opened or escalated an alert.  From
each of these points the next attempt comes to the result of an attempt without faults: it reads the record that
was left, saves it at a higher version, keeps the alert and goes on with the event that the alert owes.  So every
attempt makes progress (`reassess_progress`, `recommend_progress`).
-/

namespace SupplyRisk

/-! ## Results up to versions -/

theorem StoreCall.ignoresRisks_of_onAlerts {c : StoreCall} (hc : c.onAlerts = true) :
    c.ignoresRisks = true := by
  cases c <;> first | rfl | cases hc

theorem Verdict.settle_ignoresRisks (v : Verdict) (now : Instant) :
    (v.settle now).Only (fun c => c.ignoresRisks = true) := by
  refine Script.only_mono (v.only_settle now) ?_
  rintro c (hc | ⟨draft, rfl⟩)
  · exact StoreCall.ignoresRisks_of_onAlerts hc
  · rfl

namespace Engine

variable {e : Engine} {s t : Store} {entity : EntityRef} {v : Verdict} {r : RiskRecord}

/-- Without faults, an attempt stops at its verdict or for want of a version, or it saves the record and settles. -/
theorem reassess_plain (e : Engine) (entity : EntityRef) (s : Store) :
    (e.reassess entity).run (.plain s) =
      match e.verdict s entity with
      | .error cause => (.error cause, .plain (e.afterReads s entity))
      | .ok v =>
          if Word.hasNext v.record.version then
            (v.settle e.now).run (.plain ((e.afterReads s entity).putRisk v.record.next))
          else (.error .word, .plain (e.afterReads s entity)) := by
  have hattempt := e.reassess_attempt entity (.plain s)
  generalize (e.reassess entity).run (.plain s) = ended at hattempt
  cases hattempt with
  | missing hfault => cases hfault
  | unreadable message hfault => cases hfault
  | stops hverdict hg =>
      have hverdict : e.verdict s entity = _ := hverdict
      rw [hverdict]
      rcases hg with rfl | rfl <;> rfl
  | worn hstored hfull hreached =>
      obtain ⟨v, hverdict⟩ := hreached rfl
      have hverdict : e.verdict s entity = .ok v := hverdict
      -- The stored version is the one that the verdict builds on.
      obtain ⟨-, -, r, hr, hversion⟩ := verdict_eq_ok hverdict
      cases hr.symm.trans hstored
      rw [hverdict]
      dsimp only
      rw [hversion, if_neg (by simp [hfull])]
      rfl
  | overtaken expected found hverdict hfault => cases hfault
  | @saved v hverdict hfault hnext =>
      have hverdict : e.verdict s entity = .ok v := hverdict
      rw [hverdict]
      dsimp only
      rw [if_pos hnext]
      rfl

end Engine

/-! ## Verdicts up to versions -/

theorem SupplierRisk.assess?_unversioned (r : SupplierRisk) (a : SupplierAssessment) (today : Date)
    (days : UInt32) :
    r.unversioned.assess? a today days = (r.assess? a today days).map SupplierRisk.unversioned := by
  simp only [assess?, Option.map_map]
  rfl

theorem Verdict.ofOption_unversioned (o : Option Verdict) :
    ofOption (o.map unversioned) = (ofOption o).map unversioned := by
  cases o with
  | none => rfl
  | some v =>
      simp only [Option.map_some, ofOption, record_unversioned, RiskRecord.check_unversioned]
      cases v.record.check <;> rfl

namespace Engine

variable {e : Engine} {s t : Store} {entity : EntityRef} {v : Verdict} {r : RiskRecord}

theorem supplierVerdict_unversioned (h : SupplierHistory) (r : SupplierRisk) :
    e.supplierVerdict? h r.unversioned = (e.supplierVerdict? h r).map Verdict.unversioned := by
  simp only [supplierVerdict?, SupplierRisk.assess?_unversioned]
  cases windowStart? e.today e.config.scoring.historyWindowDays with
  | none => rfl
  | some start =>
      simp only [Option.bind_eq_bind, Option.bind_some]
      cases r.assess? _ _ _ with
      | none => rfl
      | some assessed => rfl

theorem partVerdict_unversioned (h : PartHistory) (r : PartRisk) :
    e.partVerdict? h r.unversioned = (e.partVerdict? h r).map Verdict.unversioned := by
  simp only [partVerdict?]
  cases windowStart? e.today e.config.scoring.historyWindowDays with
  | none => rfl
  | some start => rfl

theorem judge_unversioned (s : Store) (r : RiskRecord) :
    e.judge s r.unversioned = (e.judge s r).map Verdict.unversioned := by
  cases r with
  | supplier r =>
      have hid : r.unversioned.supplier = r.supplier := rfl
      simp only [RiskRecord.unversioned, judge, supplierVerdict_unversioned,
        Verdict.ofOption_unversioned, hid]
      cases s.supplierHistory r.supplier <;> rfl
  | part r =>
      have hid : r.unversioned.part = r.part := rfl
      simp only [RiskRecord.unversioned, judge, partVerdict_unversioned,
        Verdict.ofOption_unversioned, hid]
      cases s.partHistory r.part <;> rfl

theorem verdict_unversioned (e : Engine) (s : Store) (entity : EntityRef) :
    e.verdict s.unversioned entity = (e.verdict s entity).map Verdict.unversioned := by
  rw [verdict, verdict, recordFor, Store.riskOrFresh_unversioned, judge_congr (t := s.unversioned) rfl]
  exact judge_unversioned s _

/-- An attempt comes to what stops it at its verdict, or to what settling comes to once the record is saved. -/
theorem reassess_result (e : Engine) (entity : EntityRef) (s : Store) :
    (e.reassess entity).result s =
      match e.verdict s entity with
      | .error cause => (.error cause, (e.afterReads s entity).unversioned)
      | .ok v => (v.settle e.now).result ((e.afterReads s entity).putRisk v.record.next) := by
  have hreads : e.afterReads s.unversioned entity = (e.afterReads s entity).unversioned :=
    Store.withRisk_unversioned s _ entity
  simp only [Script.result, reassess_plain, verdict_unversioned, hreads]
  cases e.verdict s entity with
  | error cause => exact congrArg (Prod.mk _) (Store.unversioned_unversioned _)
  | ok v =>
      -- The first versions leave room for one more.
      have hnext : Word.hasNext v.unversioned.record.version = true := by cases v <;> rfl
      simp only [Except.map, if_pos hnext, Verdict.settle_unversioned]
      rw [← Script.result_of_ignores (v.settle_ignoresRisks e.now)]
      refine Script.result_congr _ ?_
      simp [Store.unversioned_putRisk]

/-! ## Verdicts that are reached again -/

/-- The schedule of an assessment is kept by the next one on the same day. -/
theorem scheduled_again {next : Option Date} {today day : Date} {days : UInt32}
    (h : SupplierRisk.scheduled? next today days = some day) :
    SupplierRisk.scheduled? (some day) today days = some day := by
  by_cases hpast : day < today
  · simp only [SupplierRisk.scheduled?, if_pos hpast]
    cases next with
    | none => exact h
    | some before =>
        simp only [SupplierRisk.scheduled?] at h
        split at h
        · exact h
        · rename_i hkept
          cases h
          exact absurd hpast hkept
  · simp only [SupplierRisk.scheduled?, if_neg hpast]

theorem supplierVerdict_again {h : SupplierHistory} {r : SupplierRisk}
    (hverdict : e.supplierVerdict? h r = some v) :
    ∃ assessed, v.record = .supplier assessed ∧ assessed.supplier = r.supplier ∧
      e.supplierVerdict? h { assessed with version := assessed.version + 1 } = some v.next := by
  simp only [supplierVerdict?] at hverdict ⊢
  cases hstart : windowStart? e.today e.config.scoring.historyWindowDays with
  | none =>
      rw [hstart] at hverdict
      cases hverdict
  | some start =>
      simp only [hstart, Option.bind_eq_bind, Option.bind_some, Option.bind_eq_some_iff,
        Option.pure_def, Option.some.injEq] at hverdict ⊢
      obtain ⟨assessed, hassess, rfl⟩ := hverdict
      obtain ⟨day, hday, rfl⟩ := Option.map_eq_some_iff.1 hassess
      refine ⟨_, rfl, rfl, _, ?_, rfl⟩
      simp only [SupplierRisk.assess?, scheduled_again hday]
      rfl

theorem partVerdict_again {h : PartHistory} {r : PartRisk} (hverdict : e.partVerdict? h r = some v) :
    ∃ assessed, v.record = .part assessed ∧ assessed.part = r.part ∧
      e.partVerdict? h { assessed with version := assessed.version + 1 } = some v.next := by
  simp only [partVerdict?] at hverdict ⊢
  cases hstart : windowStart? e.today e.config.scoring.historyWindowDays with
  | none =>
      rw [hstart] at hverdict
      cases hverdict
  | some start =>
      rw [hstart] at hverdict
      cases hverdict
      exact ⟨_, rfl, rfl, rfl⟩

/-- Judging the record of a verdict comes to the same verdict. -/
theorem judge_again (hjudge : e.judge s r = .ok v) : e.judge s v.record.next = .ok v.next := by
  obtain ⟨hknown, -, -, hcheck⟩ := judge_eq_ok hjudge
  have hcheck' : v.next.record.check = .ok () := by
    rw [Verdict.record_next, ← RiskRecord.check_unversioned, RiskRecord.unversioned_next,
      RiskRecord.check_unversioned, hcheck]
  have hagain : Verdict.ofOption (some v.next) = .ok v.next := by
    simp only [Verdict.ofOption, hcheck']
  cases r with
  | supplier r =>
      obtain ⟨h, hread⟩ := Store.supplierHistory_of_known hknown
      simp only [judge, hread] at hjudge
      obtain ⟨assessed, hrecord, hid, hverdict⟩ :=
        supplierVerdict_again (Verdict.ofOption_eq_ok hjudge).1
      rw [← hid] at hread
      rw [hrecord]
      simp only [RiskRecord.next, judge, hread, hverdict, hagain]
  | part r =>
      obtain ⟨h, hread⟩ := Store.partHistory_of_known hknown
      simp only [judge, hread] at hjudge
      obtain ⟨assessed, hrecord, hid, hverdict⟩ :=
        partVerdict_again (Verdict.ofOption_eq_ok hjudge).1
      rw [← hid] at hread
      rw [hrecord]
      simp only [RiskRecord.next, judge, hread, hverdict, hagain]

/-- Where the record of a verdict was saved and the inventory has not changed since, the verdict is reached
again. -/
theorem verdict_again (hverdict : e.verdict s entity = .ok v) (hinventory : t.inventory = s.inventory)
    (hstored : t.riskRecord? entity = some v.record.next) : e.verdict t entity = .ok v.next := by
  rw [verdict, recordFor, Store.riskOrFresh_of_stored hstored, judge_congr hinventory]
  exact judge_again hverdict

/-- Reading the record leaves the verdict as it is. -/
theorem verdict_afterReads (e : Engine) (s : Store) (entity : EntityRef) :
    e.verdict (e.afterReads s entity) entity = e.verdict s entity := by
  have hinventory : (e.afterReads s entity).inventory = s.inventory := Store.inventory_withRisk ..
  rw [verdict, verdict, judge_congr hinventory]
  congr 1
  unfold afterReads recordFor
  cases hknown : s.knows entity with
  | true => exact Store.riskOrFresh_of_stored (Store.riskRecord?_withRisk hknown)
  | false => rw [Store.withRisk_of_unknown hknown]

theorem afterReads_afterReads (e : Engine) (s : Store) (entity : EntityRef) :
    e.afterReads (e.afterReads s entity) entity = e.afterReads s entity := by
  unfold afterReads
  cases hknown : s.knows entity with
  | true => exact Store.withRisk_of_stored (Store.riskRecord?_withRisk hknown)
  | false => rw [Store.withRisk_of_unknown hknown, Store.withRisk_of_unknown hknown]

end Engine

/-! ## Progress of assessments -/

namespace Faults

variable {faults : Faults}

theorem spares_onAlerts (faults : Faults) {c : StoreCall} (hc : c.onAlerts = true) :
    faults.Spares c := by
  refine .of_unsaved ?_ fun s => ?_ <;> cases c <;> first | rfl | cases hc

theorem spares_insertEvent (hevent : faults.failingEventOnce = false) (draft : EventDraft) :
    faults.Spares (.insertEvent draft) := by
  refine .of_unsaved rfl fun s => ?_
  simp only [FaultyStore.perform, hevent, Bool.false_eq_true, if_false]

end Faults

/-- An alert that owes no event that is called for is settled without a new event. -/
theorem only_logPendingEvent_of_not {alert : Option Alert} {triggered : Bool}
    (hnot : ∀ a, alert = some a → a.Owes → triggered = false) (draft : EventDraft) :
    (logPendingEvent alert triggered draft).Only (fun c => c.onAlerts = true) := by
  unfold logPendingEvent
  split
  · trivial
  · rename_i a
    split
    · rename_i howes
      rw [hnot a rfl (by simpa [Alert.Owes] using howes)]
      exact Script.only_bind (Script.only_ask rfl) fun _ => trivial
    · trivial

/-- Settling fails exactly where an event is to be logged and the fault of the event log is ahead. -/
theorem Verdict.settle_masks (v : Verdict) (now : Instant) (f : FaultyStore) :
    (v.settle now).run f =
        (((v.settle now).run (.plain f.store)).1,
          { f with store := ((v.settle now).run (.plain f.store)).2.store }) ∨
      ∃ o t a message, (v.alert.reconcile now).run (.plain f.store) = (.ok o, .plain t) ∧
        o.alert = some a ∧ v.alert.Reconciles now f.store (some a) t ∧ a.Owes ∧
        f.faults.failingEventOnce = true ∧
        (v.settle now).run f = (.error (.failure (.transient message)),
          ⟨t, { f.faults with failingEventOnce := false }⟩) := by
  cases hevent : f.faults.failingEventOnce with
  | false =>
      refine .inl (Script.run_spared (Script.only_mono (v.only_settle now) ?_))
      rintro c (hc | ⟨draft, rfl⟩)
      · exact f.faults.spares_onAlerts hc
      · exact Faults.spares_insertEvent hevent draft
  | true =>
      -- Reconciling meets no fault, so both sides hand on the same alert.
      have hspared := Script.run_spared (f := f) (Script.only_mono (v.alert.only_reconcile now) fun c hc =>
        f.faults.spares_onAlerts hc)
      rcases v.alert.reconcile_run now (.plain f.store) with ⟨o, t, hplain, hdoes⟩ | ⟨hplain, -⟩
      rotate_left
      · rw [hplain] at hspared
        rw [settle, Script.run_bind_of_error hplain, Script.run_bind_of_error hspared]
        exact .inl rfl
      have hrun : (v.alert.reconcile now).run f = (.ok o, { f with store := t }) := by
        rw [hspared, hplain]
      rw [settle, Script.run_bind_of_ok hplain, Script.run_bind_of_ok hrun]
      -- The fault strikes exactly if this alert owes an event that is to be logged.
      by_cases hlogs : ∃ a, o.alert = some a ∧ a.Owes ∧ v.triggered = true
      · obtain ⟨a, halert, howes, htriggered⟩ := hlogs
        rw [halert] at hdoes
        refine .inr ⟨o, t, a, ?_⟩
        have hfound : ∀ b, o.alert = some b → b.isOpen = true → t.openAlert b.entity = some b := by
          intro b hb hopen
          cases halert.symm.trans hb
          have hfound := hdoes.found hopen
          rwa [(Store.of_openAlert hfound).2.2]
        have hlog := logPendingEvent_logs (f := { f with store := t }) hfound v.triggered v.event
        generalize hended : (logPendingEvent o.alert v.triggered v.event).run { f with store := t } =
          ended at hlog
        cases hlog with
        | idle hnone => exact absurd howes (hnone a halert)
        | waives _ _ hnot => cases htriggered.symm.trans hnot
        | logs _ _ _ hfault => cases hevent.symm.trans hfault
        | lacks _ _ _ hfault => cases hevent.symm.trans hfault
        | fails message =>
            exact ⟨message, hplain, halert, hdoes, howes, rfl, Script.run_bind_of_error hended _⟩
      · refine .inl ?_
        have hspared : (logPendingEvent o.alert v.triggered v.event >>= fun created =>
            pure (v.outcome created)).Only f.faults.Spares := by
          refine Script.only_bind (Script.only_mono (only_logPendingEvent_of_not ?_ v.event) fun c hc =>
            f.faults.spares_onAlerts hc) fun created => trivial
          intro a halert howes
          exact Bool.eq_false_iff.2 fun htriggered => hlogs ⟨a, halert, howes, htriggered⟩
        exact Script.run_spared (f := { f with store := t }) hspared

/-- A record that is refused for itself is refused again. -/
theorem RiskRecord.check_final (r : RiskRecord) {error : RiskError} (hcheck : r.check = .error error) :
    error.isRetryable = false := by
  cases r with
  | supplier r =>
      simp only [check, SupplierRisk.check] at hcheck
      cases hpercentage : checkPercentage "alert_threshold" r.alertThreshold.toNat with
      | error error' =>
          rw [hpercentage] at hcheck
          cases hcheck
          exact checkPercentage_final hpercentage
      | ok value =>
          rw [hpercentage] at hcheck
          change (if _ then _ else _) = _ at hcheck
          split at hcheck
          · cases hcheck
          · cases hcheck
            rfl
  | part r =>
      simp only [check, PartRisk.check] at hcheck
      cases hpercentage : checkPercentage "combined_risk" r.combined.toNat with
      | error error' =>
          rw [hpercentage] at hcheck
          cases hcheck
          exact checkPercentage_final hpercentage
      | ok value =>
          rw [hpercentage] at hcheck
          cases hcheck

/-- A failed read has changed nothing and uses up its fault. -/
theorem Progress.of_failedRead {α : Type} {x : Script α} {entity : EntityRef} {f : FaultyStore}
    {message : String} (hfault : f.faults.transientOnce.contains entity.rank = true) :
    Progress x entity f (.error (.failure (.transient message)), f.afterFailedRead entity) := by
  refine .transient message rfl rfl ?_ ⟨rfl, fun n => Roster.contains_of_contains_erase, rfl, id⟩
  simp only [Faults.transientsAhead, FaultyStore.afterFailedRead, Roster.contains_erase_self, hfault,
    Bool.toNat_false, Bool.toNat_true]
  omega

namespace Engine

variable {e : Engine} {entity : EntityRef} {f : FaultyStore} {p : RetryPolicy}

/-- Losing a race leaves the store as it was up to versions. -/
theorem unversioned_race (f : FaultyStore) (entity : EntityRef) :
    (f.race entity).store.unversioned = f.store.unversioned := by
  unfold FaultyStore.race FaultyStore.raceWriter
  split
  · exact Store.unversioned_bumpRisk f.store entity
  · rfl

theorem within_race (f : FaultyStore) (entity : EntityRef) :
    (f.race entity).faults.Within f.faults := by
  unfold FaultyStore.race FaultyStore.raceWriter
  split
  · exact ⟨rfl, fun _ h => h, rfl, fun h => h⟩
  · exact .refl f.faults

/-- What stops an attempt before its save stops it again. -/
theorem judge_final {s : Store} {r : RiskRecord} {error : RiskError}
    (hjudge : e.judge s r = .error (.failure error)) : error.isRetryable = false := by
  have hcheck {o : Option Verdict} (h : Verdict.ofOption o = .error (.failure error)) :
      error.isRetryable = false := by
    cases o with
    | none => cases h
    | some v =>
        simp only [Verdict.ofOption] at h
        split at h
        · cases h
        · rename_i hcheck
          cases h
          exact v.record.check_final hcheck
  cases hknown : s.knows r.entity with
  | false =>
      cases (judge_of_unknown hknown).symm.trans hjudge
      rfl
  | true =>
      cases r with
      | supplier r =>
          obtain ⟨h, hread⟩ := Store.supplierHistory_of_known hknown
          simp only [judge, hread] at hjudge
          exact hcheck hjudge
      | part r =>
          obtain ⟨h, hread⟩ := Store.partHistory_of_known hknown
          simp only [judge, hread] at hjudge
          exact hcheck hjudge

/-- A store that an interrupted attempt left after its reads. -/
theorem reassess_result_of_reads {s : Store} (hsame : s.unversioned = (e.afterReads f.store entity).unversioned) :
    (e.reassess entity).result s = (e.reassess entity).result f.store := by
  rw [Script.result_congr _ hsame, reassess_result, reassess_result, verdict_afterReads,
    afterReads_afterReads]

/-- A store on which an attempt saved its record and reconciled its alert, but could not log the event. -/
theorem reassess_result_of_saved {s t u : Store} {v : Verdict} {o : AlertOutcome} {a : Alert}
    (hverdict : e.verdict u entity = .ok v)
    (hsaved : (e.afterReads u entity).putRisk v.record.next = s)
    (hrun : (v.alert.reconcile e.now).run (.plain s) = (.ok o, .plain t)) (halert : o.alert = some a)
    (hdoes : v.alert.Reconciles e.now s (some a) t) (hopen : a.isOpen = true) :
    (e.reassess entity).result t = (e.reassess entity).result u := by
  have hentity : v.record.next.entity = entity := by
    rw [RiskRecord.entity_next, (verdict_eq_ok hverdict).1]
  -- Reconciling leaves inventory and records alone, so the saved record is read and judged again.
  have hframe : t.inventory = u.inventory ∧ t.riskRecord? entity = some v.record.next := by
    have hinventory : s.inventory = u.inventory := by
      rw [← hsaved, Store.inventory_putRisk, afterReads, Store.inventory_withRisk]
    have hstored : s.riskRecord? entity = some v.record.next := by
      rw [← hsaved, Store.riskRecord?_putRisk, if_pos hentity]
    rcases hdoes.store with rfl | ⟨b, rfl⟩
    · exact ⟨hinventory, hstored⟩
    · exact ⟨hinventory, (Store.riskRecord?_putAlert s b entity).trans hstored⟩
  have hreads : e.afterReads t entity = t := Store.withRisk_of_stored hframe.2
  have hsame : (t.putRisk v.record.next.next).unversioned = t.unversioned :=
    Store.unversioned_putRisk_of_stored hframe.2 (RiskRecord.unversioned_next _)
  calc (e.reassess entity).result t
      = (v.settle e.now).result (t.putRisk v.record.next.next) := by
        rw [reassess_result, verdict_again hverdict hframe.1 hframe.2, hreads]
        simp only [Verdict.settle_next, Verdict.record_next]
    _ = (v.settle e.now).result t := Script.result_congr _ hsame
    _ = (v.settle e.now).result s := by
        have hignores := v.settle_ignoresRisks e.now
        rw [Script.result_of_ignores hignores, Script.result_of_ignores hignores,
          Verdict.settle_again hrun halert hdoes hopen]
    _ = (e.reassess entity).result u := by
        rw [reassess_result, hverdict]
        simp only [hsaved]

/-- An attempt to assess an entity makes progress. -/
theorem reassess_progress (e : Engine) (entity : EntityRef) (f : FaultyStore)
    (hmasked : f.faults.Masked p) :
    Progress (e.reassess entity) entity f ((e.reassess entity).run f) := by
  have hattempt := e.reassess_attempt entity f
  generalize (e.reassess entity).run f = ended at hattempt
  cases hattempt with
  | missing hfault =>
      rw [hmasked.missing] at hfault
      cases hfault
  | unreadable message hfault =>
      exact .of_failedRead hfault
  | @stops cause g hverdict hg =>
      refine .ends ?_ ?_ ?_
      · rw [reassess_result, hverdict]
        rcases hg with rfl | rfl
        · rfl
        · rw [unversioned_race]
      · intro error herror
        cases herror
        exact judge_final hverdict
      · rcases hg with rfl | rfl
        · exact .refl f.faults
        · exact within_race { f with store := e.afterReads f.store entity } entity
  | overtaken expected found hverdict hfault =>
      have hrace := FaultyStore.race_of_fault (f := { f with store := e.afterReads f.store entity }) hfault
      refine .conflict expected found (reassess_result_of_reads (unversioned_race _ entity)) ?_ ?_
        (within_race { f with store := e.afterReads f.store entity } entity)
      · simp only [hrace, Faults.conflictsAhead, Roster.contains_erase_self, hfault]
        rfl
      · rw [hrace]
        rfl
  | worn hstored hfull => exact .runsOut _
  | @saved v hverdict hfault hnext =>
      -- Either the event log does not fail, or the next attempt comes back to the same alert and event.
      generalize hsaved : (e.afterReads f.store entity).putRisk v.record.next = s
      rcases v.settle_masks e.now { f with store := s } with
        hrun | ⟨o, t, a, message, hreconcile, halert, hdoes, howes, hevent, hrun⟩
      · rw [hrun]
        refine .ends ?_ ?_ (.refl f.faults)
        · rw [reassess_result, hverdict]
          dsimp only
          rw [hsaved, Script.result_of_ignores (v.settle_ignoresRisks e.now)]
        · intro error herror
          obtain ⟨r, g, hplain, hends⟩ := v.settle_succeeds e.now (f := .plain s) rfl
          rw [hplain] at herror
          rcases hends with rfl | ⟨created, rfl⟩ <;> cases herror
      · rw [hrun]
        refine .transient message ?_ rfl ?_ ⟨rfl, fun _ h => h, rfl, fun h => nomatch h⟩
        · exact reassess_result_of_saved hverdict hsaved hreconcile halert hdoes howes.1
        · have hevent : f.faults.failingEventOnce = true := hevent
          simp only [Faults.transientsAhead, hevent]
          rfl

end Engine

end SupplyRisk
