import SupplyRisk.Proofs.Engine.Assess
import SupplyRisk.Proofs.Store.Inventory

/-!
# The way of one attempt

Before an attempt to assess writes anything but a fresh record, history and stored record decide what it is going
to write: the `Verdict`.  The attempt then saves the record of its verdict, reconciles the alert and logs the
event that the alert owes (`Verdict.settle`).  `Engine.Attempt` lists the ways an attempt can go, and
`reassess_attempt` says that there are no others.
-/

namespace SupplyRisk

/-- What an assessment has come to: the record to save, with what its alert and event are made from. -/
inductive Verdict where
  | supplier (name : String) (category : Category) (today : Date) (record : SupplierRisk)
  | part (history : PartHistory) (today : Date) (record : PartRisk)

namespace Verdict

def record : Verdict → RiskRecord
  | supplier _ _ _ record => .supplier record
  | part _ _ record => .part record

/-- The verdict with its record at the next version. -/
def next : Verdict → Verdict
  | supplier name category today record =>
      supplier name category today { record with version := record.version + 1 }
  | part history today record => part history today { record with version := record.version + 1 }

/-- The verdict with its record at version zero. -/
def unversioned : Verdict → Verdict
  | supplier name category today record => supplier name category today record.unversioned
  | part history today record => part history today record.unversioned

def alert : Verdict → AlertContext
  | supplier name category _ record => Engine.supplierAlert name category record
  | part history _ record => Engine.partAlert history.part.name record

def event : Verdict → EventDraft
  | supplier name category today record => Engine.supplierEvent name category today record
  | part history today record => Engine.partEvent history today record

/-- Whether an event is called for: always for a part, from its threshold on for a supplier. -/
def triggered : Verdict → Bool
  | supplier _ _ _ record => record.isAlertTriggered
  | part _ _ _ => true

def belowStockThreshold : Verdict → Bool
  | supplier _ _ _ _ => false
  | part history _ _ => history.isBelowStockThreshold

/-- What is left to do once the record is saved. -/
def settle (v : Verdict) (now : Instant) : Script Outcome := do
  let outcome ← v.alert.reconcile now
  let eventCreated ← logPendingEvent outcome.alert v.triggered v.event
  return {
    highRisk := v.record.level.isHigh
    eventCreated
    belowStockThreshold := v.belowStockThreshold }

@[simp] theorem entity_alert (v : Verdict) : v.alert.entity = v.record.entity := by cases v <;> rfl

@[simp] theorem level_alert (v : Verdict) : v.alert.level = v.record.level := by cases v <;> rfl

@[simp] theorem severity_event (v : Verdict) : v.event.severity = v.record.level := by
  cases v <;> rfl

@[simp] theorem record_next (v : Verdict) : v.next.record = v.record.next := by cases v <;> rfl

@[simp] theorem record_unversioned (v : Verdict) : v.unversioned.record = v.record.unversioned := by
  cases v <;> rfl

/-- What follows the save does not depend on the version. -/
@[simp] theorem settle_unversioned (v : Verdict) (now : Instant) :
    v.unversioned.settle now = v.settle now := by
  cases v <;> rfl

@[simp] theorem settle_next (v : Verdict) (now : Instant) : v.next.settle now = v.settle now := by
  cases v <;> rfl

/-- A verdict that was reached within the calendar and whose record passes the check of every save. -/
def ofOption : Option Verdict → Except Halt Verdict
  | none => .error .calendar
  | some v =>
      match v.record.check with
      | .ok () => .ok v
      | .error error => .error (.failure error)

theorem ofOption_eq_ok {o : Option Verdict} {v : Verdict} (h : ofOption o = .ok v) :
    o = some v ∧ v.record.check = .ok () := by
  cases o with
  | none => cases h
  | some w =>
      unfold ofOption at h
      dsimp only at h
      split at h
      · rename_i hcheck
        cases h
        exact ⟨rfl, hcheck⟩
      · cases h

end Verdict

namespace Engine

variable (e : Engine)

def supplierVerdict? (h : SupplierHistory) (r : SupplierRisk) : Option Verdict := do
  let start ← windowStart? e.today e.config.scoring.historyWindowDays
  let factors := SupplierFactors.ofHistory e.config.scoring start h
  let assessed ← r.assess? (.ofFactors e.weights factors) e.today
    e.config.alerts.nextAssessmentIntervalDays
  return .supplier h.supplier.name factors.category e.today assessed

def partVerdict? (h : PartHistory) (r : PartRisk) : Option Verdict := do
  let start ← windowStart? e.today e.config.scoring.historyWindowDays
  let stockout := Factor.stockout e.config.scoring.stockout start h
  return .part h e.today (r.assess (.ofFlags (r.flags h.isSingleSource) stockout) e.today)

/-- What an assessment of the record's entity comes to, or why it stops before its save. -/
def judge (s : Store) : RiskRecord → Except Halt Verdict
  | .supplier r =>
      match s.supplierHistory r.supplier with
      | .error error => .error (.failure error)
      | .ok h => Verdict.ofOption (e.supplierVerdict? h r)
  | .part r =>
      match s.partHistory r.part with
      | .error error => .error (.failure error)
      | .ok h => Verdict.ofOption (e.partVerdict? h r)

/-- The record that an assessment reads. -/
def recordFor (s : Store) (entity : EntityRef) : RiskRecord :=
  s.riskOrFresh e.config.alerts.defaultAlertThreshold entity

/-- The store after the reads of an assessment. -/
def afterReads (s : Store) (entity : EntityRef) : Store :=
  s.withRisk e.config.alerts.defaultAlertThreshold entity

/-- What an assessment of the entity comes to. -/
def verdict (s : Store) (entity : EntityRef) : Except Halt Verdict := e.judge s (e.recordFor s entity)

variable {e} {s t : Store} {entity : EntityRef} {r : RiskRecord} {v : Verdict}

/-- Judging looks at the inventory only. -/
theorem judge_congr (hinventory : t.inventory = s.inventory) (r : RiskRecord) :
    e.judge t r = e.judge s r := by
  cases r with
  | supplier r => simp only [judge, Store.supplierHistory_congr hinventory]
  | part r => simp only [judge, Store.partHistory_congr hinventory]

theorem judge_of_unknown (hunknown : s.knows r.entity = false) :
    e.judge s r = .error (.failure (.notFound r.entity)) := by
  cases r with
  | supplier r => simp only [judge, Store.supplierHistory_of_unknown hunknown]; rfl
  | part r => simp only [judge, Store.partHistory_of_unknown hunknown]; rfl

theorem judge_eq_ok (hjudge : e.judge s r = .ok v) :
    s.knows r.entity = true ∧ v.record.entity = r.entity ∧ v.record.version = r.version ∧
      v.record.check = .ok () := by
  have hknown : s.knows r.entity = true := by
    cases hknows : s.knows r.entity with
    | true => rfl
    | false => cases (judge_of_unknown hknows).symm.trans hjudge
  cases r with
  | supplier r =>
      obtain ⟨h, hread⟩ := Store.supplierHistory_of_known hknown
      simp only [judge, hread] at hjudge
      obtain ⟨hsome, hcheck⟩ := Verdict.ofOption_eq_ok hjudge
      simp only [supplierVerdict?, Option.bind_eq_bind, Option.bind_eq_some_iff, Option.pure_def,
        Option.some.injEq] at hsome
      obtain ⟨start, -, assessed, hassess, rfl⟩ := hsome
      obtain ⟨next, -, rfl⟩ := Option.map_eq_some_iff.1 hassess
      exact ⟨hknown, rfl, rfl, hcheck⟩
  | part r =>
      obtain ⟨h, hread⟩ := Store.partHistory_of_known hknown
      simp only [judge, hread] at hjudge
      obtain ⟨hsome, hcheck⟩ := Verdict.ofOption_eq_ok hjudge
      simp only [partVerdict?, Option.bind_eq_bind, Option.bind_eq_some_iff, Option.pure_def,
        Option.some.injEq] at hsome
      obtain ⟨start, -, rfl⟩ := hsome
      exact ⟨hknown, rfl, rfl, hcheck⟩

theorem verdict_of_unknown (hunknown : s.knows entity = false) :
    e.verdict s entity = .error (.failure (.notFound entity)) := by
  have hentity : (e.recordFor s entity).entity = entity := Store.entity_riskOrFresh ..
  rw [verdict, judge_of_unknown (by rw [hentity, hunknown]), hentity]

/-- A verdict is about the entity, and its record has the version that is stored by then. -/
theorem verdict_eq_ok (hverdict : e.verdict s entity = .ok v) :
    v.record.entity = entity ∧ v.record.check = .ok () ∧
      ∃ r, (e.afterReads s entity).riskRecord? entity = some r ∧ v.record.version = r.version := by
  obtain ⟨hknown, hentity, hversion, hcheck⟩ := judge_eq_ok hverdict
  rw [recordFor, Store.entity_riskOrFresh] at hknown hentity
  exact ⟨hentity, hcheck, _, Store.riskRecord?_withRisk hknown, hversion⟩

end Engine

/-! ## Saving in spite of faults -/

theorem RiskRecord.version_next_ne (r : RiskRecord) : r.next.version ≠ r.version := by
  rw [version_next]
  simp

namespace Store

variable {s : Store} {c : StoreCall} {r : RiskRecord}

/-- A save is refused for its record, refused for its version, or stores the next version. -/
theorem perform_save (hsave : c.savedRisk? = some r) (s : Store) :
    (∃ error, r.check = .error error ∧ s.perform c = .error error) ∨
      (r.check = .ok () ∧ s.riskVersion r.entity ≠ r.version ∧
        s.perform c = .error (.conflict r.entity r.version (s.riskVersion r.entity))) ∨
      (r.check = .ok () ∧ s.riskVersion r.entity = r.version ∧
        ∃ answer, c.answeredRisk? (.ok answer) = some r.next ∧
          s.perform c = .ok (answer, s.putRisk r.next)) := by
  cases c with
  | saveSupplierRisk record =>
      cases hsave
      have hversion := riskVersion_supplier s record.supplier
      change s.riskVersion record.entity = _ at hversion
      cases hcheck : record.check with
      | error error =>
          refine .inl ⟨error, hcheck, ?_⟩
          simp only [perform, saveSupplierRisk, hcheck]
          rfl
      | ok u =>
          by_cases hsame : s.riskVersion record.entity = record.version
          · have hperform := saveSupplierRisk_eq_ok_iff.2 ⟨hcheck, hversion ▸ hsame, rfl, rfl⟩
            exact .inr (.inr ⟨hcheck, hsame, _, rfl, hperform⟩)
          · refine .inr (.inl ⟨hcheck, hsame, ?_⟩)
            simp only [perform, saveSupplierRisk, hcheck, ← hversion, checkVersion, if_neg hsame]
            rfl
  | savePartRisk record =>
      cases hsave
      have hversion := riskVersion_part s record.part
      change s.riskVersion record.entity = _ at hversion
      cases hcheck : record.check with
      | error error =>
          refine .inl ⟨error, hcheck, ?_⟩
          simp only [perform, savePartRisk, hcheck]
          rfl
      | ok u =>
          by_cases hsame : s.riskVersion record.entity = record.version
          · have hperform := savePartRisk_eq_ok_iff.2 ⟨hcheck, hversion ▸ hsame, rfl, rfl⟩
            exact .inr (.inr ⟨hcheck, hsame, _, rfl, hperform⟩)
          · refine .inr (.inl ⟨hcheck, hsame, ?_⟩)
            simp only [perform, savePartRisk, hcheck, ← hversion, checkVersion, if_neg hsame]
            rfl
  | _ => cases hsave

end Store

namespace FaultyStore

variable {f : FaultyStore}

/-- Uses up a conflict on an entity, whose stored version another writer raises. -/
def race (f : FaultyStore) (entity : EntityRef) : FaultyStore :=
  f.raceWriter entity (·.bumpRisk entity)

variable {c : StoreCall} {r stored : RiskRecord} {entity : EntityRef}

theorem race_of_fault (hfault : f.faults.conflictOnce.contains entity.rank = true) :
    f.race entity =
      { store := f.store.bumpRisk entity
        faults := { f.faults with conflictOnce := f.faults.conflictOnce.erase entity.rank } } :=
  if_pos hfault

theorem race_of_no_fault (hfault : f.faults.conflictOnce.contains entity.rank = false) :
    f.race entity = f := if_neg (by simp [hfault])

theorem perform_eq_race (hsave : c.savedRisk? = some r) (f : FaultyStore) :
    f.perform c = (f.race r.entity).pass c := by
  cases c with
  | saveSupplierRisk record => cases hsave; rfl
  | savePartRisk record => cases hsave; rfl
  | _ => cases hsave

theorem raced_of_save (hsave : c.savedRisk? = some r) (f : FaultyStore) : f.raced c = f.race r.entity := by
  cases c with
  | saveSupplierRisk record => cases hsave; rfl
  | savePartRisk record => cases hsave; rfl
  | _ => cases hsave

theorem raceFits_of_save (hsave : c.savedRisk? = some r) (f : FaultyStore) :
    f.raceFits c = (!f.faults.conflictOnce.contains r.entity.rank ||
      (f.store.riskRecord? r.entity).all (Word.hasNext ·.version)) := by
  cases c with
  | saveSupplierRisk record =>
      cases hsave
      show _ = (!_ || Option.all _ (Option.map _ _))
      rw [Option.all_map]
      rfl
  | savePartRisk record =>
      cases hsave
      show _ = (!_ || Option.all _ (Option.map _ _))
      rw [Option.all_map]
      rfl
  | _ => cases hsave

theorem hasNumberFor_of_save (hsave : c.savedRisk? = some r) (s : Store) :
    s.hasNumberFor c = Word.hasNext r.version := by
  cases c with
  | saveSupplierRisk record => cases hsave; rfl
  | savePartRisk record => cases hsave; rfl
  | _ => cases hsave

/-- A record at the stored version can be saved if there is a version after it, with or without another writer. -/
theorem hasRoom_of_save (hsave : c.savedRisk? = some r) (hstored : f.store.riskRecord? r.entity = some stored)
    (hversion : r.version = stored.version) (hnext : Word.hasNext stored.version = true) : f.hasRoom c = true := by
  refine hasRoom_of_hasNumberFor ?_ ?_
  · rw [raceFits_of_save hsave, hstored, Option.all_some, hnext, Bool.or_true]
  · rw [hasNumberFor_of_save hsave, hversion, hnext]

/-- At the last version no save is made, and the store stays as it was. -/
theorem giveUp_of_save (hsave : c.savedRisk? = some r) (hstored : f.store.riskRecord? r.entity = some stored)
    (hfull : Word.hasNext stored.version = false) : f.giveUp c = { f.race r.entity with store := f.store } := by
  rw [giveUp, raceFits_of_save hsave, raced_of_save hsave, hstored, Option.all_some, hfull, Bool.or_false]
  cases hfault : f.faults.conflictOnce.contains r.entity.rank with
  | true => rfl
  | false =>
      rw [race_of_no_fault hfault]
      rfl

/-- A record at the stored version is refused for itself, loses against another writer, or is stored at the next
version. -/
theorem save_cases (hsave : c.savedRisk? = some r)
    (hstored : f.store.riskRecord? r.entity = some stored) (hversion : r.version = stored.version) :
    (∃ error, r.check = .error error ∧ f.perform c = (.error error, f.race r.entity)) ∨
      (r.check = .ok () ∧ f.faults.conflictOnce.contains r.entity.rank = true ∧
        ∃ found, f.perform c = (.error (.conflict r.entity r.version found), f.race r.entity)) ∨
      (r.check = .ok () ∧ f.faults.conflictOnce.contains r.entity.rank = false ∧
        ∃ answer, c.answeredRisk? (.ok answer) = some r.next ∧
          f.perform c = (.ok answer, { f with store := f.store.putRisk r.next })) := by
  rw [perform_eq_race hsave]
  cases hfault : f.faults.conflictOnce.contains r.entity.rank with
  | true =>
      have hentity : stored.entity = r.entity := Store.entity_of_riskRecord? hstored
      -- The other writer has raised the version, so the save can only be refused.
      have hne : (f.race r.entity).store.riskVersion r.entity ≠ r.version := by
        rw [race_of_fault hfault, Store.riskVersion, Store.bumpRisk_of_some hstored,
          Store.riskRecord?_putRisk, if_pos (by rw [RiskRecord.entity_next, hentity]), hversion]
        exact RiskRecord.version_next_ne stored
      rcases Store.perform_save hsave (f.race r.entity).store with
        ⟨error, hcheck, hperform⟩ | ⟨hcheck, -, hperform⟩ | ⟨-, hsame, -⟩
      · exact .inl ⟨error, hcheck, by rw [pass, hperform]⟩
      · exact .inr (.inl ⟨hcheck, rfl, _, by rw [pass, hperform]⟩)
      · exact absurd hsame hne
  | false =>
      have hsame : f.store.riskVersion r.entity = r.version := by
        rw [Store.riskVersion, hstored]
        exact hversion.symm
      rw [race_of_no_fault hfault]
      rcases Store.perform_save hsave f.store with
        ⟨error, hcheck, hperform⟩ | ⟨-, hne, -⟩ | ⟨hcheck, -, answer, hanswer, hperform⟩
      · exact .inl ⟨error, hcheck, by rw [pass, hperform]⟩
      · exact absurd hsame hne
      · exact .inr (.inr ⟨hcheck, rfl, answer, hanswer, pass_of_ok hperform⟩)

end FaultyStore

/-! ## Attempts -/

namespace FaultyStore

/-- Uses up the fault that makes one read of an entity's history fail. -/
def afterFailedRead (f : FaultyStore) (entity : EntityRef) : FaultyStore :=
  { f with faults := { f.faults with transientOnce := f.faults.transientOnce.erase entity.rank } }

variable {f : FaultyStore} {entity : EntityRef} (c : StoreCall)

theorem readHistory_of_missing (hmissing : f.faults.missing.contains entity.rank = true) :
    f.readHistory entity c = (.error (.notFound entity), f) := if_pos hmissing

theorem readHistory_of_transient (hthere : f.faults.missing.contains entity.rank = false)
    (hfault : f.faults.transientOnce.contains entity.rank = true) :
    f.readHistory entity c =
      (.error (.transient ("injected failure reading " ++ entity.text)), f.afterFailedRead entity) := by
  rw [readHistory, hthere, if_neg Bool.false_ne_true, if_pos hfault]
  rfl

theorem readHistory_of_spared (hthere : f.faults.missing.contains entity.rank = false)
    (hfault : f.faults.transientOnce.contains entity.rank = false) : f.readHistory entity c = f.pass c := by
  rw [readHistory, hthere, hfault, if_neg Bool.false_ne_true, if_neg Bool.false_ne_true]

end FaultyStore

namespace Engine

/-- The ways an attempt to assess an entity can go: the entity cannot be read for good or for once, the verdict
stops the attempt, there is no version after the stored one, another writer saves first, or the record is saved. -/
inductive Attempt (e : Engine) (entity : EntityRef) (f : FaultyStore) :
    Except Halt Outcome × FaultyStore → Prop
  | missing (hfault : f.faults.missing.contains entity.rank = true) :
      Attempt e entity f (.error (.failure (.notFound entity)), f)
  | unreadable (message : String) (hfault : f.faults.transientOnce.contains entity.rank = true) :
      Attempt e entity f (.error (.failure (.transient message)), f.afterFailedRead entity)
  | stops {cause : Halt} {g : FaultyStore} (hverdict : e.verdict f.store entity = .error cause)
      (hg : g = { f with store := e.afterReads f.store entity } ∨
        g = FaultyStore.race { f with store := e.afterReads f.store entity } entity) :
      Attempt e entity f (.error cause, g)
  | worn {stored : RiskRecord} (hstored : (e.afterReads f.store entity).riskRecord? entity = some stored)
      (hfull : Word.hasNext stored.version = false)
      (hverdict : f.faults.conflictOnce.contains entity.rank = false → ∃ v, e.verdict f.store entity = .ok v) :
      Attempt e entity f (.error .word,
        { FaultyStore.race { f with store := e.afterReads f.store entity } entity with
          store := e.afterReads f.store entity })
  | overtaken {v : Verdict} (expected found : UInt64) (hverdict : e.verdict f.store entity = .ok v)
      (hfault : f.faults.conflictOnce.contains entity.rank = true) :
      Attempt e entity f (.error (.failure (.conflict entity expected found)),
        FaultyStore.race { f with store := e.afterReads f.store entity } entity)
  | saved {v : Verdict} (hverdict : e.verdict f.store entity = .ok v)
      (hfault : f.faults.conflictOnce.contains entity.rank = false) (hnext : Word.hasNext v.record.version = true) :
      Attempt e entity f ((v.settle e.now).run
        { f with store := (e.afterReads f.store entity).putRisk v.record.next })

variable {e : Engine} {entity : EntityRef} {f : FaultyStore} {v : Verdict}

/-- From the save on, an attempt goes one of four ways. -/
theorem Attempt.of_save {c : StoreCall} {rest : c.Answer → Script Outcome} {stored : RiskRecord}
    (hverdict : e.verdict f.store entity = Verdict.ofOption (some v))
    (hsave : c.savedRisk? = some v.record) (hentity : v.record.entity = entity)
    (hstored : (e.afterReads f.store entity).riskRecord? entity = some stored)
    (hversion : v.record.version = stored.version)
    (hrest : ∀ answer, c.answeredRisk? (.ok answer) = some v.record.next →
      rest answer = v.settle e.now) :
    e.Attempt entity f
      ((Script.ask c >>= rest).run { f with store := e.afterReads f.store entity }) := by
  subst hentity
  by_cases hroom : FaultyStore.hasRoom { f with store := e.afterReads f.store v.record.entity } c = true
  rotate_left
  · have hfull : Word.hasNext stored.version = false :=
      Bool.eq_false_iff.2 fun hnext => hroom (FaultyStore.hasRoom_of_save hsave hstored hversion hnext)
    rw [Script.run_bind_of_error (Script.run_ask_of_full hroom), FaultyStore.giveUp_of_save hsave hstored hfull]
    refine .worn hstored hfull fun hfault => ⟨v, ?_⟩
    -- Without another writer, the save would have been answered.
    have hfits : FaultyStore.raceFits { f with store := e.afterReads f.store v.record.entity } c = true := by
      rw [FaultyStore.raceFits_of_save hsave, hfault]
      rfl
    obtain ⟨answer, hanswer⟩ := (FaultyStore.not_hasRoom_iff.1 hroom hfits).2
    rcases FaultyStore.save_cases (f := { f with store := e.afterReads f.store v.record.entity })
        hsave hstored hversion with ⟨error, -, hperform⟩ | ⟨-, -, found, hperform⟩ | ⟨hcheck, -⟩
    · cases hanswer.symm.trans (congrArg Prod.fst hperform)
    · cases hanswer.symm.trans (congrArg Prod.fst hperform)
    · rw [hverdict]
      simp only [Verdict.ofOption, hcheck]
  rw [Script.run_bind, Script.run_ask hroom]
  rcases FaultyStore.save_cases (f := { f with store := e.afterReads f.store v.record.entity })
      hsave hstored hversion with
    ⟨error, hcheck, hperform⟩ | ⟨hcheck, hfault, found, hperform⟩ | ⟨hcheck, hfault, answer, hanswer, hperform⟩
  · rw [hperform]
    refine .stops ?_ (.inr rfl)
    rw [hverdict]
    simp only [Verdict.ofOption, hcheck]
  · rw [hperform]
    refine .overtaken (v := v) _ _ ?_ hfault
    rw [hverdict]
    simp only [Verdict.ofOption, hcheck]
  · rw [hperform]
    dsimp only
    rw [hrest answer hanswer]
    refine .saved ?_ hfault ?_
    · rw [hverdict]
      simp only [Verdict.ofOption, hcheck]
    · have hnumber := (FaultyStore.hasRoom_cases hroom).2
      rw [hperform, FaultyStore.hasNumberFor_of_save hsave] at hnumber
      exact hnumber.resolve_right fun ⟨error, herror⟩ => nomatch herror

/-- Up to its two reads, an attempt can only meet the faults of reading. -/
theorem Attempt.of_reads {hist risk : StoreCall} {rest : hist.Answer → risk.Answer → Script Outcome}
    (hhist : f.perform hist = f.readHistory entity hist)
    (hrisk : f.perform risk = f.readRisk entity risk)
    (hhistRoom : ∀ g : FaultyStore, g.hasRoom hist = true) (hriskRoom : ∀ g : FaultyStore, g.hasRoom risk = true)
    (hreads :
      (∃ error, f.store.perform hist = .error error ∧
        e.verdict f.store entity = .error (.failure error) ∧ f.store.knows entity = false) ∨
      ∃ h r, f.store.perform hist = .ok (h, f.store) ∧
        f.store.perform risk = .ok (r, e.afterReads f.store entity) ∧
        e.Attempt entity f ((rest h r).run { f with store := e.afterReads f.store entity })) :
    e.Attempt entity f
      ((Script.ask hist >>= fun h => Script.ask risk >>= fun r => rest h r).run f) := by
  rw [Script.run_bind, Script.run_ask (hhistRoom f), hhist]
  cases hmissing : f.faults.missing.contains entity.rank with
  | true =>
      rw [FaultyStore.readHistory_of_missing hist hmissing]
      exact .missing hmissing
  | false =>
  cases hfault : f.faults.transientOnce.contains entity.rank with
  | true =>
      rw [FaultyStore.readHistory_of_transient hist hmissing hfault]
      exact .unreadable _ hfault
  | false =>
  rw [FaultyStore.readHistory_of_spared hist hmissing hfault]
  rcases hreads with ⟨error, hperform, hverdict, hunknown⟩ | ⟨h, r, hperform, hperform', hrest⟩
  · rw [FaultyStore.pass, hperform]
    refine .stops hverdict (.inl ?_)
    rw [afterReads, Store.withRisk_of_unknown hunknown]
  · rw [FaultyStore.pass_of_ok hperform]
    dsimp only
    rw [Script.run_bind, Script.run_ask (hriskRoom f), hrisk, FaultyStore.readRisk, hmissing,
      if_neg Bool.false_ne_true, FaultyStore.pass_of_ok hperform']
    exact hrest

/-- An attempt whose dates leave the calendar stops after its reads. -/
theorem Attempt.of_calendar (hverdict : e.verdict f.store entity = Verdict.ofOption none) :
    e.Attempt entity f (.error .calendar, { f with store := e.afterReads f.store entity }) :=
  .stops hverdict (.inl rfl)

theorem assessSupplier_attempt (e : Engine) (id : SupplierId) (f : FaultyStore) :
    e.Attempt (.supplier id) f ((e.assessSupplier id).run f) := by
  simp only [assessSupplier, saveSupplierAssessment, windowStart, bind_assoc, pure_bind]
  refine .of_reads rfl rfl (fun _ => rfl) (fun _ => rfl) ?_
  cases hknown : f.store.knows (.supplier id) with
  | false =>
      refine .inl ⟨_, ?_, verdict_of_unknown hknown, rfl⟩
      simp only [Store.perform, Store.supplierHistory_of_unknown hknown]
      rfl
  | true =>
      obtain ⟨h, hhistory⟩ := Store.supplierHistory_of_known hknown
      obtain ⟨record, hid, hrecord, hrisk⟩ :=
        Store.supplierRisk_of_known hknown e.config.alerts.defaultAlertThreshold
      have hstored : (e.afterReads f.store (.supplier id)).riskRecord? (.supplier id) =
          some (.supplier record) := (Store.riskRecord?_withRisk hknown).trans (congrArg some hrecord)
      have hverdict : e.verdict f.store (.supplier id) =
          Verdict.ofOption (e.supplierVerdict? h record) := by
        rw [verdict, recordFor, hrecord]
        simp only [judge, hid, hhistory]
      have hread : f.store.perform (.supplierHistory id) = .ok (h, f.store) := by
        simp only [Store.perform, hhistory]
        rfl
      refine .inr ⟨h, record, hread, hrisk, ?_⟩
      -- The calendar can end at the start of the history window and at the next assessment.
      unfold supplierVerdict? at hverdict
      cases hstart : windowStart? e.today e.config.scoring.historyWindowDays with
      | none =>
          rw [hstart] at hverdict
          exact .of_calendar hverdict
      | some start =>
          rw [hstart] at hverdict
          simp only [Option.bind_eq_bind, Option.bind_some] at hverdict
          show e.Attempt _ f ((Script.inCalendar (record.assess? _ _ _) >>= _).run _)
          cases hassess : record.assess? (.ofFactors e.weights
            (.ofHistory e.config.scoring start h)) e.today
            e.config.alerts.nextAssessmentIntervalDays with
          | none =>
              rw [hassess] at hverdict
              exact .of_calendar hverdict
          | some assessed =>
              rw [hassess] at hverdict
              obtain ⟨next, -, hassessed⟩ := Option.map_eq_some_iff.1 hassess
              refine .of_save hverdict rfl ?_ hstored ?_ fun answer hanswer => ?_
              · rw [← hid, ← hassessed]
                rfl
              · rw [← hassessed]
                rfl
              · cases hanswer
                rfl

theorem assessPart_attempt (e : Engine) (id : PartId) (f : FaultyStore) :
    e.Attempt (.part id) f ((e.assessPart id).run f) := by
  simp only [assessPart, savePartAssessment, windowStart, bind_assoc]
  refine .of_reads rfl rfl (fun _ => rfl) (fun _ => rfl) ?_
  cases hknown : f.store.knows (.part id) with
  | false =>
      refine .inl ⟨_, ?_, verdict_of_unknown hknown, rfl⟩
      simp only [Store.perform, Store.partHistory_of_unknown hknown]
      rfl
  | true =>
      obtain ⟨h, hhistory⟩ := Store.partHistory_of_known hknown
      obtain ⟨record, hid, hrecord, hrisk⟩ :=
        Store.partRisk_of_known hknown e.config.alerts.defaultAlertThreshold
      -- The first read creates the record if there is none.
      have hstored : (e.afterReads f.store (.part id)).riskRecord? (.part id) =
          some (.part record) := (Store.riskRecord?_withRisk hknown).trans (congrArg some hrecord)
      have hverdict : e.verdict f.store (.part id) = Verdict.ofOption (e.partVerdict? h record) := by
        rw [verdict, recordFor, hrecord]
        simp only [judge, hid, hhistory]
      have hread : f.store.perform (.partHistory id) = .ok (h, f.store) := by
        simp only [Store.perform, hhistory]
        rfl
      refine .inr ⟨h, record, hread, hrisk, ?_⟩
      unfold partVerdict? at hverdict
      cases hstart : windowStart? e.today e.config.scoring.historyWindowDays with
      | none =>
          rw [hstart] at hverdict
          exact .of_calendar hverdict
      | some start =>
          rw [hstart] at hverdict
          refine .of_save hverdict rfl ?_ hstored rfl fun answer hanswer => ?_
          · rw [← hid]
            rfl
          · cases hanswer
            rfl

/-- There are no other ways. -/
theorem reassess_attempt (e : Engine) (entity : EntityRef) (f : FaultyStore) :
    e.Attempt entity f ((e.reassess entity).run f) := by
  cases entity with
  | supplier id => exact e.assessSupplier_attempt id f
  | part id => exact e.assessPart_attempt id f

/-- An engine with the standard configuration, at the start of a day. -/
def standardOn (day : Date) : Engine := ⟨{}, {}, .midnight day⟩

end Engine

end SupplyRisk
