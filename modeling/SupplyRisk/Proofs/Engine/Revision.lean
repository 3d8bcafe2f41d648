import SupplyRisk.Proofs.Engine.Agreement
import SupplyRisk.Proofs.Engine.Conduct
import SupplyRisk.Proofs.Store.Continuity

/-!
# Revisions of risk records

Engines read risk records, change them and save them: they set a threshold, assess an entity, or create a record where
there is none.  `Engine.Revises` is one such change of a record, and `Store.Revised` says that all records of a store
come from those of another one by such changes.  Whatever engines are asked for, at the same time and with any faults,
each of their store calls revises the store (`Discipline.revising_suits`): a record may have been revised by others
between the moments when it is read and when it is saved, but then it has a higher version and the saving is refused.
-/

namespace SupplyRisk

open Relation (ReflTransGen)

/-! ## Stores -/

namespace Engine

/-- What an assessment makes of a record. -/
inductive Assesses (e : Engine) : RiskRecord → RiskRecord → Prop
  | supplier {r assessed : SupplierRisk} (factors : SupplierFactors)
      (hassess : r.assess? (.ofFactors e.weights factors) e.today e.config.alerts.nextAssessmentIntervalDays =
        some assessed) :
      Assesses e (.supplier r) (.supplier assessed)
  | part (r : PartRisk) (flags : PartFlags) (stockout : Score) :
      Assesses e (.part r) (.part (r.assess (.ofFlags flags stockout) e.today))

/-- What an engine makes of a record: it saves it, gives it another threshold, or assesses it. -/
inductive Revises (e : Engine) : RiskRecord → RiskRecord → Prop
  | saved (r : RiskRecord) : Revises e r r.next
  | threshold {r r' : SupplierRisk} {value : Int} (hset : r.setAlertThreshold value = .ok r') :
      Revises e (.supplier r) (.supplier r')
  | assessed {r r' : RiskRecord} (hassesses : e.Assesses r r') : Revises e r r'

end Engine

namespace Store

/-- Every record of the second store is what an engine has made of the one that the first store has for its entity, or
of a new one where it has none. -/
structure Revised (e : Engine) (s t : Store) : Prop where
  stored : ∀ z r, s.riskRecord? z = some r → ∃ r', t.riskRecord? z = some r' ∧ ReflTransGen e.Revises r r'
  new : ∀ z r', s.riskRecord? z = none → t.riskRecord? z = some r' →
    ∃ threshold ≤ 100, ReflTransGen e.Revises (.fresh threshold z) r'

variable {e : Engine} {s t u : Store} {r : RiskRecord}

namespace Revised

theorem of_same (hsame : ∀ z, t.riskRecord? z = s.riskRecord? z) : Revised e s t where
  stored z r hr := ⟨r, (hsame z).trans hr, .refl⟩
  new z _ hnone hr' := nomatch hnone.symm.trans ((hsame z).symm.trans hr')

theorem refl (s : Store) : Revised e s s := of_same fun _ => rfl

theorem trans (hst : Revised e s t) (htu : Revised e t u) : Revised e s u where
  stored z r hr := by
    obtain ⟨r', hr', hrevisions⟩ := hst.stored z r hr
    obtain ⟨r'', hr'', hrevisions'⟩ := htu.stored z r' hr'
    exact ⟨r'', hr'', hrevisions.trans hrevisions'⟩
  new z r'' hnone hr'' := by
    cases ht : t.riskRecord? z with
    | none => exact htu.new z r'' ht hr''
    | some r' =>
        obtain ⟨threshold, hle, hrevisions⟩ := hst.new z r' hnone ht
        obtain ⟨r₂, hr₂, hrevisions'⟩ := htu.stored z r' ht
        cases hr''.symm.trans hr₂
        exact ⟨threshold, hle, hrevisions.trans hrevisions'⟩

end Revised

/-- A revised record takes the place of the stored one. -/
theorem revised_putRisk {stored : RiskRecord} (hstored : s.riskRecord? r.entity = some stored)
    (hrevisions : ReflTransGen e.Revises stored r) : Revised e s (s.putRisk r) where
  stored z r' hr' := by
    rw [riskRecord?_putRisk]
    split
    · rename_i hz
      subst hz
      cases hstored.symm.trans hr'
      exact ⟨r, rfl, hrevisions⟩
    · exact ⟨r', hr', .refl⟩
  new z r' hnone hr' := by
    rw [riskRecord?_putRisk] at hr'
    split at hr'
    · rename_i hz
      subst hz
      cases hnone.symm.trans hstored
    · cases hnone.symm.trans hr'

theorem revised_putRisk_fresh {threshold : UInt8} {z : EntityRef} (hthreshold : threshold ≤ 100)
    (habsent : s.riskRecord? z = none) : Revised e s (s.putRisk (.fresh threshold z)) where
  stored z' r' hr' := ⟨r', riskRecord?_putRisk_fresh habsent hr', .refl⟩
  new z' r' hnone hr' := by
    rw [riskRecord?_putRisk, RiskRecord.entity_fresh] at hr'
    split at hr'
    · rename_i hz
      subst hz
      cases hr'
      exact ⟨threshold, hthreshold, .refl⟩
    · cases hnone.symm.trans hr'

theorem revised_bumpRisk (s : Store) (z : EntityRef) : Revised e s (s.bumpRisk z) := by
  cases hstored : s.riskRecord? z with
  | none =>
      rw [bumpRisk_of_none hstored]
      exact .refl s
  | some r =>
      rw [bumpRisk_of_some hstored]
      have hentity : r.next.entity = z := by rw [RiskRecord.entity_next, entity_of_riskRecord? hstored]
      exact revised_putRisk (hentity.symm ▸ hstored) (.single (.saved r))

end Store

/-! ## Store calls -/

/-- A call that saves no record, and creates none with a threshold beyond the percentages. -/
structure StoreCall.SavesNone (c : StoreCall) : Prop where
  saved : c.savedRisk? = none
  threshold : ∀ id threshold, c = .supplierRisk id threshold → threshold ≤ 100

namespace Store

variable {e : Engine} {s t : Store}

theorem Effect.revised {c : StoreCall} (hc : c.SavesNone) (heffect : s.Effect c t) : Revised e s t := by
  cases heffect with
  | @newSupplierRisk id threshold habsent hknown =>
      exact revised_putRisk_fresh (z := .supplier id) (hc.threshold id threshold rfl) (by simp [riskRecord?, habsent])
  | @newPartRisk id habsent hknown =>
      exact revised_putRisk_fresh (z := .part id) (show (0 : UInt8) ≤ 100 by decide) (by simp [riskRecord?, habsent])
  | supplierRisk hcheck hversion => cases hc.saved
  | partRisk hcheck hversion => cases hc.saved
  | _ => exact .of_same fun z => by cases z <;> rfl

/-- Foreign writers only save. -/
theorem revised_stable (e : Engine) (s : Store) : Stable StoreCall.SavesNone (Revised e s) where
  effect hc heffect h := h.trans (heffect.revised hc)
  bumpSupplier t id h := h.trans (revised_bumpRisk t (.supplier id))
  bumpPart t id h := h.trans (revised_bumpRisk t (.part id))

end Store

namespace StoreCall

variable {c : StoreCall}

theorem savesNone_of_recommends (hc : c.recommends = true) : c.SavesNone where
  saved := by cases c <;> first | rfl | cases hc
  threshold := by
    rintro id threshold rfl
    cases hc

end StoreCall

/-- Calls of reviewers save no record. -/
theorem EngineCall.Makes.savesNone {e : Engine} {call : EngineCall} {c : StoreCall} (hmakes : call.Makes e c)
    (hassesses : call.assesses = false) (himports : ∀ rows, call ≠ .importThresholds rows) : c.SavesNone := by
  cases hmakes with
  | works h _ => cases hassesses.symm.trans h
  | lists h _ => cases hassesses.symm.trans h
  | readThreshold | saveThreshold | setStockThreshold => exact absurd rfl (himports _)
  | _ => exact ⟨rfl, fun _ _ h => nomatch h⟩

/-! ## Assessments -/

namespace Engine

variable {e : Engine} {f g : FaultyStore} {z : EntityRef}

theorem assesses_of_judge {s : Store} {r : RiskRecord} {v : Verdict} (hjudge : e.judge s r = .ok v) :
    e.Assesses r v.record := by
  cases r with
  | supplier r =>
      simp only [judge] at hjudge
      split at hjudge
      · cases hjudge
      · obtain ⟨hsome, -⟩ := Verdict.ofOption_eq_ok hjudge
        simp only [supplierVerdict?, Option.bind_eq_bind, Option.bind_eq_some_iff, Option.pure_def,
          Option.some.injEq] at hsome
        obtain ⟨start, -, assessed, hassess, rfl⟩ := hsome
        exact .supplier _ hassess
  | part r =>
      simp only [judge] at hjudge
      split at hjudge
      · cases hjudge
      · obtain ⟨hsome, -⟩ := Verdict.ofOption_eq_ok hjudge
        simp only [partVerdict?, Option.bind_eq_bind, Option.bind_eq_some_iff, Option.pure_def,
          Option.some.injEq] at hsome
        obtain ⟨start, -, rfl⟩ := hsome
        exact .part r _ _

/-- An attempt that succeeds leaves the assessed record in the store. -/
theorem assesses_of_reassess {o : Outcome} (hrun : (e.reassess z).run f = (.ok o, g)) :
    ∃ r, e.Assesses (e.recordFor f.store z) r ∧ g.store.riskRecord? z = some r.next := by
  have hattempt := e.reassess_attempt z f
  rw [hrun] at hattempt
  generalize hended : ((Except.ok o, g) : Except Halt Outcome × FaultyStore) = ended at hattempt
  cases hattempt with
  | missing hfault => cases hended
  | unreadable message hfault => cases hended
  | stops hverdict hg => cases hended
  | overtaken expected found hverdict hfault => cases hended
  | worn hverdict hg => cases hended
  | @saved v hverdict hfault =>
      refine ⟨v.record, assesses_of_judge hverdict, ?_⟩
      have hrisk := (v.settle_settles e.now
        { f with store := (e.afterReads f.store z).putRisk v.record.next }).riskRecord? z
      rw [← hended] at hrisk
      rw [hrisk, Store.riskRecord?_putRisk, RiskRecord.entity_next, if_pos (verdict_eq_ok hverdict).1]

end Engine

/-! ## Scripts that revise -/

/-- The store has the record, or one of a higher version that has taken its place since. -/
def Store.HasSince (s : Store) (r : RiskRecord) : Prop :=
  ∃ stored, s.riskRecord? r.entity = some stored ∧ (stored = r ∨ r.version < stored.version)

namespace Store.HasSince

variable {s t : Store} {r stored : RiskRecord}

theorem of_stored (hstored : s.riskRecord? r.entity = some r) : s.HasSince r := ⟨r, hstored, .inl rfl⟩

theorem continues (h : s.HasSince r) (hst : s.Continues t) : t.HasSince r := by
  obtain ⟨stored, hstored, hsince⟩ := h
  obtain ⟨stored', hstored', hkept⟩ := hst.risks _ _ hstored
  refine ⟨stored', hstored', ?_⟩
  rcases hkept with rfl | hlt
  · exact hsince
  · rcases hsince with rfl | hlt'
    · exact .inr hlt
    · exact .inr (UInt64.lt_trans hlt' hlt)

/-- As long as the version is the same, so is the record. -/
theorem eq_of_version (h : s.HasSince r) (hstored : s.riskRecord? r.entity = some stored)
    (hversion : stored.version = r.version) : stored = r := by
  obtain ⟨stored', hstored', hsince⟩ := h
  cases hstored.symm.trans hstored'
  exact hsince.resolve_right fun hlt => UInt64.lt_irrefl _ (hversion ▸ hlt)

end Store.HasSince

namespace FaultyStore

variable {e : Engine} {f : FaultyStore} {c : StoreCall}

theorem revised_raced (e : Engine) (f : FaultyStore) (c : StoreCall) : f.store.Revised e (f.raced c).store := by
  rcases f.raced_cases c with hsame | ⟨r, hstored, -, hput⟩
  · rw [hsame]
    exact .refl f.store
  · rw [hput]
    rw [← RiskRecord.entity_next] at hstored
    exact Store.revised_putRisk hstored (.single (.saved r))

theorem revised_giveUp (e : Engine) (f : FaultyStore) (c : StoreCall) : f.store.Revised e (f.giveUp c).store := by
  unfold giveUp
  split
  · exact f.revised_raced e c
  · exact .refl f.store

/-- A call that saves a record finds the version that the record bears, or changes nothing. -/
theorem save_step {r : RiskRecord} (hsave : c.savedRisk? = some r) (hroom : f.hasRoom c = true) :
    (f.perform c).2.store = (f.raced c).store ∨
      (f.raced c).store.riskVersion r.entity = r.version ∧ (f.perform c).2.store = (f.raced c).store.putRisk r.next := by
  rcases perform_step hroom with hsame | ⟨-, heffect⟩
  · exact .inl hsame
  refine .inr ?_
  generalize (f.perform c).2.store = t at heffect ⊢
  cases heffect with
  | supplierRisk hcheck hversion =>
      cases hsave
      exact ⟨(Store.riskVersion_supplier _ _).trans hversion, rfl⟩
  | partRisk hcheck hversion =>
      cases hsave
      exact ⟨(Store.riskVersion_part _ _).trans hversion, rfl⟩
  | nothing hreads => cases c <;> contradiction
  | _ => cases hsave

/-- What is saved over a record of its version was made from that record. -/
theorem revised_save {r r' : RiskRecord} (hsave : c.savedRisk? = some r') (hhas : f.store.HasSince r)
    (hentity : r'.entity = r.entity) (hversion : r'.version = r.version) (hrevises : e.Revises r r')
    (hroom : f.hasRoom c = true) : f.store.Revised e (f.perform c).2.store := by
  have hraced := f.revised_raced e c
  refine hraced.trans ?_
  have hhas := hhas.continues (continues_raced (hasRoom_cases hroom).1)
  rcases save_step hsave hroom with hsame | ⟨hstored, hput⟩
  · rw [hsame]
    exact .refl _
  · have hsince := hhas
    obtain ⟨stored, hfind, -⟩ := hhas
    have hsame : stored = r := by
      rw [hentity, Store.riskVersion, hfind, hversion] at hstored
      exact hsince.eq_of_version hfind hstored
    rw [hput]
    refine Store.revised_putRisk ?_ (.tail (.single hrevises) (.saved r'))
    rw [RiskRecord.entity_next, hentity, hfind, hsame]

end FaultyStore

namespace Discipline

open Script

/-- In the place of each engine, this engine revises records. -/
def revising (engines : List Engine) : Discipline where
  Holds _ := True
  Step place f g := f.store.Continues g.store ∧ ∃ e, engines[place]? = some e ∧ f.store.Revised e g.store

variable {engines : List Engine} {place : Nat} {e : Engine} {c : StoreCall} {f : FaultyStore}

/-- Whatever the others do, it is no step back for a record. -/
theorem leads_hasSince {g : FaultyStore} {r : RiskRecord} (hleads : (revising engines).Leads f g)
    (hhas : f.store.HasSince r) : g.store.HasSince r :=
  hleads.keeps (P := fun g => g.store.HasSince r)
    (fun _ _ _ (hstep : Store.Continues _ _ ∧ _) hhas => hhas.continues hstep.1) hhas

variable (hplace : engines[place]? = some e)
include hplace

theorem allows_revising (hmade : f.hasRoom c = true → f.store.Revised e (f.perform c).2.store) :
    (revising engines).Allows place c f where
  made hroom := ⟨trivial, FaultyStore.continues_perform hroom, e, hplace, hmade hroom⟩
  givenUp _ := ⟨trivial, f.continues_giveUp c, e, hplace, f.revised_giveUp e c⟩

theorem allows_revising_of_savesNone (hc : c.SavesNone) (f : FaultyStore) : (revising engines).Allows place c f :=
  allows_revising hplace fun _ => FaultyStore.perform_stable (Store.revised_stable e f.store) hc (.refl f.store)

theorem revising_obeys {α : Type} {x : Script α} (hx : x.Only StoreCall.SavesNone) : x.Obeys (revising engines) place :=
  hx.obeys fun _ hc f _ => allows_revising_of_savesNone hplace hc f

/-- A script that has read a record knows that the store has it, or one of a higher version. -/
theorem reads_supplierRisk {threshold : UInt8} (hthreshold : threshold ≤ 100) (id : SupplierId) (f : FaultyStore) :
    (ask (.supplierRisk id threshold)).Assures (revising engines) place
      (fun r g => g.store.HasSince (.supplier r)) f := by
  refine assures_ask (c := .supplierRisk id threshold) (fun g _ => allows_revising_of_savesNone hplace ⟨rfl, ?_⟩ g)
    (fun g r h _ hrun => ?_) fun r _ g h hstep hhas => hhas.continues hstep.1
  · rintro _ _ ⟨⟩
    exact hthreshold
  · have hstored := riskRecord?_of_supplierRisk hrun
    rw [← Store.entity_of_riskRecord? hstored] at hstored
    exact .of_stored hstored

theorem reads_partRisk (id : PartId) (f : FaultyStore) :
    (ask (.partRisk id)).Assures (revising engines) place (fun r g => g.store.HasSince (.part r)) f := by
  refine assures_ask (c := .partRisk id) (fun g _ => allows_revising_of_savesNone hplace ⟨rfl, by rintro _ _ ⟨⟩⟩ g)
    (fun g r h _ hrun => ?_) fun r _ g h hstep hhas => hhas.continues hstep.1
  have hstored := riskRecord?_of_partRisk hrun
  rw [← Store.entity_of_riskRecord? hstored] at hstored
  exact .of_stored hstored

/-- What was made of a record that was read may be saved. -/
theorem saves {r r' : RiskRecord} (hsave : c.savedRisk? = some r') (hhas : f.store.HasSince r)
    (hentity : r'.entity = r.entity) (hversion : r'.version = r.version) (hrevises : e.Revises r r') :
    (ask c).Assures (revising engines) place (fun _ _ => True) f := by
  refine assures_ask (c := c) (fun g hg => allows_revising hplace fun hroom => ?_) (fun _ _ _ _ _ => trivial)
    fun _ _ _ _ _ _ => trivial
  exact FaultyStore.revised_save hsave (leads_hasSince hg hhas) hentity hversion hrevises hroom

end Discipline

section Suits

open Script Discipline

variable {engines : List Engine} {place : Nat} {e : Engine} (hplace : engines[place]? = some e)
include hplace

theorem Engine.revising_reassess (hthreshold : e.config.alerts.defaultAlertThreshold ≤ 100) (entity : EntityRef) :
    (e.reassess entity).Obeys (revising engines) place := by
  intro f hf
  -- After its save an attempt deals with alerts and events only.
  have hnotice {β : Type} (context : AlertContext) (triggered : Bool) (draft : EventDraft) (k : Bool → β) :
      Script.Obeys (revising engines) place (do
        let outcome ← context.reconcile e.now
        let created ← logPendingEvent outcome.alert triggered draft
        return k created) := by
    refine Obeys.bind (revising_obeys hplace (only_mono (context.only_reconcile e.now) fun c hc => ?_))
      fun outcome => Obeys.bind (revising_obeys hplace (only_mono (only_logPendingEvent ..) fun c hc => ?_))
        fun created => obeys_pure _
    · exact ⟨StoreCall.savedRisk?_of_onAlerts hc, by rintro id threshold rfl; cases hc⟩
    · rcases hc with ⟨draft, rfl⟩ | ⟨a, event, -, rfl⟩ <;> exact ⟨rfl, fun _ _ h => nomatch h⟩
  have hdated {α : Type} {r : RiskRecord} {o : Option α} {f : FaultyStore} (hhas : f.store.HasSince r) :
      (inCalendar o).Assures (revising engines) place (fun a g => o = some a ∧ g.store.HasSince r) f :=
    assures_inCalendar fun a ha g hg => ⟨ha, leads_hasSince hg hhas⟩
  cases entity with
  | supplier id =>
      show (e.assessSupplier id).Assures (revising engines) place _ f
      simp only [Engine.assessSupplier, Engine.saveSupplierAssessment, bind_assoc, pure_bind]
      refine (revising_obeys hplace (only_ask (c := .supplierHistory id) ⟨rfl, by rintro _ _ ⟨⟩⟩) f hf).bind
        fun history f _ _ => ?_
      refine (reads_supplierRisk hplace hthreshold id f).bind fun record f _ hrecord => ?_
      refine (hdated hrecord).bind fun start f _ hstart => (hdated hstart.2).bind fun assessed f _ hassessed => ?_
      have hassesses : e.Revises (.supplier record) (.supplier assessed) := .assessed (.supplier _ hassessed.1)
      obtain ⟨next, -, rfl⟩ := Option.map_eq_some_iff.1 hassessed.1
      exact (saves hplace rfl hassessed.2 (by rfl) (by rfl) hassesses).bind fun saved f _ _ =>
        hnotice _ _ _ _ f trivial
  | part id =>
      show (e.assessPart id).Assures (revising engines) place _ f
      simp only [Engine.assessPart, Engine.savePartAssessment, bind_assoc]
      refine (revising_obeys hplace (only_ask (c := .partHistory id) ⟨rfl, by rintro _ _ ⟨⟩⟩) f hf).bind
        fun history f _ _ => ?_
      refine (reads_partRisk hplace id f).bind fun record f _ hrecord => ?_
      refine (hdated hrecord).bind fun start f _ hstart => ?_
      have hassesses (flags : PartFlags) (stockout : Score) := Engine.Assesses.part (e := e) record flags stockout
      exact (saves hplace rfl hstart.2 (by rfl) (by rfl) (.assessed (hassesses _ _))).bind fun saved f _ _ =>
        hnotice _ _ _ _ f trivial

theorem revising_setAlertThreshold (id : SupplierId) (threshold : Int) :
    (setAlertThreshold id threshold).Obeys (revising engines) place := by
  intro f _
  refine (reads_supplierRisk hplace (by decide) id f).bind fun record f _ hrecord => ?_
  refine (assures_ofExcept (Q := fun changed g => record.setAlertThreshold threshold = .ok changed ∧
    g.store.HasSince (.supplier record)) fun changed hset g hg => ⟨hset, leads_hasSince hg hrecord⟩).bind
      fun changed f _ hchanged => ?_
  have hrevises : e.Revises (.supplier record) (.supplier changed) := .threshold hchanged.1
  obtain ⟨value, -, rfl⟩ := map_eq_ok_iff.1 hchanged.1
  exact saves hplace rfl hchanged.2 (by rfl) (by rfl) hrevises

theorem ThresholdRecord.revising_apply (row : ThresholdRecord) : row.apply.Obeys (revising engines) place := by
  have hpart (id : PartId) (threshold : Option UInt32) :
      (ask (.setPartStockThreshold id threshold)).Obeys (revising engines) place :=
    revising_obeys hplace (only_ask ⟨rfl, by rintro _ _ ⟨⟩⟩)
  unfold apply
  split
  · split
    · exact obeys_stop _
    · exact (revising_setAlertThreshold hplace _ _).bind fun _ => obeys_pure _
  · split
    · exact hpart _ _
    · exact (revising_obeys hplace (only_ofExcept _)).bind fun _ => hpart _ _

/-- An engine whose threshold for new records is a percentage revises records, whatever it is asked for. -/
theorem Discipline.revising_suits (hthreshold : e.config.alerts.defaultAlertThreshold ≤ 100) :
    (revising engines).Suits place e where
  work pass entity := by
    cases pass with
    | suppliers => exact Engine.revising_reassess hplace hthreshold entity
    | parts => exact Engine.revising_reassess hplace hthreshold entity
    | recommendations =>
        exact revising_obeys hplace (only_mono (e.only_recommend entity) fun c => StoreCall.savesNone_of_recommends)
  lists c hlists f _ := by
    refine allows_revising_of_savesNone hplace ?_ f
    rcases hlists with rfl | rfl | rfl | rfl <;> exact ⟨rfl, by rintro _ _ ⟨⟩⟩
  resolveAlert id resolver := revising_obeys hplace
    (only_mono (EngineCall.only_resolveAlert e id resolver) fun c hmakes => hmakes.savesNone rfl (by rintro _ ⟨⟩))
  reviewRecommendation id notes := revising_obeys hplace
    (only_mono (EngineCall.only_reviewRecommendation e id notes) fun c hmakes => hmakes.savesNone rfl (by rintro _ ⟨⟩))
  resolveEvent id notes := revising_obeys hplace (only_ask ⟨rfl, by rintro _ _ ⟨⟩⟩)
  row row := row.revising_apply hplace

end Suits

/-- A call by itself revises the store, whether it succeeds or not. -/
theorem EngineCall.revised_after {e : Engine} (hthreshold : e.config.alerts.defaultAlertThreshold ≤ 100)
    (call : EngineCall) (f : FaultyStore) : f.store.Revised e (call.after e f).store := by
  have hdisciplined : (pool f [(e, call)]).Disciplined (.revising [e]) := by
    refine disciplined_pool trivial fun place other hother => ?_
    obtain ⟨rfl, rfl⟩ : place = 0 ∧ (e, call) = other := by simpa [List.getElem?_singleton] using hother
    exact Discipline.revising_suits rfl hthreshold
  obtain ⟨schedule, hschedule⟩ := exists_schedule f [(e, call)]
  have hleads := (hdisciplined.run schedule).2
  rw [hschedule] at hleads
  refine hleads.lift (R := fun g h => g.store.Revised e h.store) (.refl _) (fun _ _ hfg hgh => hfg.trans hgh) ?_
  rintro place g h ⟨-, e', hplace, hrevised⟩
  obtain rfl : e' = e := List.mem_singleton.1 (List.mem_of_getElem? hplace)
  exact hrevised

end SupplyRisk
