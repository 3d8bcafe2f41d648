import SupplyRisk.Proofs.Engine.Accounting
import SupplyRisk.Proofs.Engine.Deed
import SupplyRisk.Proofs.Engine.EventOnce

/-!
# Entities at rest

A visit leaves its entity in a state in which the same visit has nothing to do any more but raise the version of a
record: the entity is at rest (`rests_after_deed`).  Visits to other entities and other versions leave it at rest.
So a tour leaves all entities that it visits at rest (`rests_after_tour`), and a second one over them changes nothing
but versions and comes to the same results, but for events and suggestions (`tour_of_rests`).
-/

namespace SupplyRisk

/-- Reconciling leaves no alert open at low, and otherwise one that shows the level at least. -/
theorem AlertContext.Reconciles.leaves {c : AlertContext} {now : Instant} {s t : Store} {alert : Option Alert}
    (hone : s.OneOpen) (hdoes : c.Reconciles now s alert t) :
    t.openAlert c.entity = none ∧ c.level = .low ∨
      ∃ a, alert = some a ∧ t.openAlert c.entity = some a ∧ c.level ≠ .low ∧ ¬ a.level < c.level := by
  cases hopen : alert.any Alert.isOpen with
  | true =>
      obtain ⟨a, rfl, hopen⟩ := (Option.any_eq_true _ _).1 hopen
      exact .inr ⟨a, rfl, hdoes.found hopen, hdoes.settled hopen⟩
  | false =>
      cases hdoes with
      | idle hnone hlow => exact .inl ⟨hnone, hlow⟩
      | opens hnone hlevel ha => rw [ha] at hopen; cases hopen
      | resolves hfound hlow => exact .inl ⟨Store.openAlert_of_resolved hone hfound now none, hlow⟩
      | escalates hfound hlt => cases (Store.of_openAlert hfound).2.1.symm.trans hopen
      | keeps hfound hlow hle => cases (Store.of_openAlert hfound).2.1.symm.trans hopen

/-- The verdict asks nothing of the open alert any more. -/
def Verdict.Settled (v : Verdict) : Option Alert → Prop
  | none => v.record.level = .low
  | some a => v.record.level ≠ .low ∧ ¬ a.level < v.record.level ∧ ¬ a.Owes

namespace Verdict

variable {v : Verdict} {now : Instant} {s : Store} {z : EntityRef}

theorem settled_next {current : Option Alert} : v.next.Settled current ↔ v.Settled current := by
  cases current <;> simp only [Settled, record_next, RiskRecord.level_next]

theorem outcome_next (v : Verdict) (eventCreated : Bool) : v.next.outcome eventCreated = v.outcome eventCreated := by
  cases v <;> rfl

/-- A settled verdict writes the open alert as it is, if there is one. -/
theorem Settled.alertWrite? {current : Option Alert} (hsettled : v.Settled current) (now : Instant) :
    v.logs now current = false ∧ v.alertWrite? now current = current.map (.alert false · none) := by
  have hhands : v.handsOn now current = current := by
    unfold handsOn
    cases current with
    | none =>
        rw [AlertContext.handsOn_none, if_neg]
        rw [level_alert, Level.medium_le_iff]
        exact fun hne => hne hsettled
    | some a =>
        obtain ⟨hlow, hle, -⟩ := hsettled
        rw [AlertContext.handsOn_some, level_alert, if_neg hlow, if_neg hle]
  have hlogs : v.logs now current = false := by
    unfold logs
    rw [hhands]
    cases current with
    | none => rfl
    | some a => rw [Option.any_some, decide_eq_false hsettled.2.2, Bool.false_and]
  refine ⟨hlogs, ?_⟩
  unfold Verdict.alertWrite?
  rw [hhands, hlogs]
  cases current with
  | none => rfl
  | some a =>
      rw [Option.map_some, if_neg hsettled.2.2]
      rfl

/-- Settling a verdict leaves it settled, if its entity had one open alert at most. -/
theorem settled_after (v : Verdict) (now : Instant) (hone : s.OneOpen)
    (hroom : s.RoomFor (v.settling now (s.openAlert v.record.entity)).writes) :
    v.Settled ((s.writes (v.settling now (s.openAlert v.record.entity)).writes).openAlert v.record.entity) := by
  have hsettles := v.settle_settles now (.plain s)
  rw [(v.settle_ends now s).eq_done hroom] at hsettles
  generalize s.writes (v.settling now (s.openAlert v.record.entity)).writes = u at hsettles ⊢
  generalize hended : ((_, FaultyStore.plain u) : Except Halt Outcome × FaultyStore) = ended at hsettles
  cases hsettles with
  | @of_reconciles alert t logged g hreconciles hlogs =>
      obtain ⟨-, hg⟩ := Prod.mk.inj hended
      have hleaves := hreconciles.leaves hone
      rw [entity_alert, level_alert] at hleaves
      -- What was recorded on the alert that is handed on is the last thing that was written.
      have hrecorded {a : Alert} {event : Option EventId} (ha : alert = some a) (howes : a.Owes)
          (hput : u.alerts = t.alerts.insert (a.recordEvent event)) : v.Settled (u.openAlert v.record.entity) := by
        subst ha
        have hfound := hreconciles.found howes.1
        rw [entity_alert] at hfound
        rcases hleaves with ⟨hnone, -⟩ | ⟨b, hb, -, hlow, hle⟩
        · cases hnone.symm.trans hfound
        · cases hb
          have hagain : u.openAlert v.record.entity = some (a.recordEvent event) := by
            rw [← Store.openAlert_putAlert_of_some (b := a.recordEvent event) hfound rfl howes.1
              (Store.of_openAlert hfound).2.2, Store.openAlert, hput]
            rfl
          rw [hagain]
          exact ⟨hlow, hle, fun h => by cases h.2⟩
      cases hlogs with
      | idle hnone =>
          have hsame : u = t := congrArg FaultyStore.store hg
          rw [hsame]
          rcases hleaves with ⟨hclosed, hlow⟩ | ⟨a, ha, hfound, hlow, hle⟩
          · rw [hclosed]
            exact hlow
          · rw [hfound]
            exact ⟨hlow, hle, hnone a ha⟩
      | waives halert howes htriggered =>
          exact hrecorded halert howes (congrArg (fun f : FaultyStore => f.store.alerts) hg)
      | logs halert howes htriggered hfault =>
          exact hrecorded halert howes (congrArg (fun f : FaultyStore => f.store.alerts) hg)
      | fails message halert howes htriggered hfault => cases hfault
      | lacks halert howes htriggered hfault hfull => cases (Prod.mk.inj hended).1
  | lacks hlacks => cases (Prod.mk.inj hended).1

end Verdict

/-! ## Suggestions -/

/-- Versions have no part in what is planned. -/
theorem Engine.drafts_unversioned (e : Engine) (s : Store) (id : PartId) :
    e.drafts s.unversioned id = e.drafts s id := by
  unfold drafts
  rw [Store.riskOrFresh_unversioned, Store.partHistory_congr (Store.inventory_unversioned s)]
  cases s.partHistory id with
  | error error => rfl
  | ok h =>
      cases s.riskOrFresh 0 (.part id) with
      | supplier record => rfl
      | part record =>
          simp only [RiskRecord.unversioned, Store.categoryOfferings_congr (Store.inventory_unversioned s)]
          rfl

/-- After what was planned for a part has been added, nothing is planned for it any more. -/
theorem Engine.drafts_again {e : Engine} {s t : Store} {id : PartId} (hinventory : t.inventory = s.inventory)
    (hrisk : t.riskOrFresh 0 (.part id) = s.riskOrFresh 0 (.part id))
    (hplanned : ∀ d ∈ e.drafts s id, t.isSuggested id d.suggestedSupplier = true)
    (hkept : ∀ supplier, s.isSuggested id supplier = true → t.isSuggested id supplier = true) :
    e.drafts t id = [] := by
  unfold drafts at hplanned ⊢
  rw [Store.partHistory_congr hinventory, hrisk]
  cases hhistory : s.partHistory id with
  | error error => rfl
  | ok h =>
      cases hrecord : s.riskOrFresh 0 (.part id) with
      | supplier record => rfl
      | part record =>
          cases heligible : record.isEligible with
          | false => simp only [heligible]
          | true =>
              cases hsome : h.part.category with
              | none => simp only [heligible, hsome]
              | some category =>
                  simp only [hhistory, hrecord, heligible, hsome] at hplanned ⊢
                  rw [Store.categoryOfferings_congr hinventory, Store.id_of_partHistory hhistory]
                  rw [Store.id_of_partHistory hhistory] at hplanned
                  refine Suggestion.plan_again (fun d hd => Store.isSuggested_iff.1 (hplanned d hd)) fun r hr => ?_
                  exact Store.isSuggested_iff.1 (hkept _ (Store.isSuggested_iff.2 ⟨r, hr, rfl⟩))

/-! ## Entities at rest -/

/-- The record of the entity, if there is one, can have a next version. -/
def Store.HasNextVersion (s : Store) (z : EntityRef) : Prop :=
  ∀ r, s.riskRecord? z = some r → Word.hasNext r.version = true

/-- Whether a visit of a pass raises the version of the record of its entity. -/
def Pass.saves (pass : Pass) (result : Except RiskError Outcome) : Bool :=
  match pass, result with
  | .recommendations, _ => false
  | _, .ok _ => true
  | _, .error _ => false

theorem Pass.saves_error (pass : Pass) (error : RiskError) : pass.saves (.error error) = false := by
  cases pass <;> rfl

theorem Pass.saves_ok {pass : Pass} (hpass : pass ≠ .recommendations) (o : Outcome) : pass.saves (.ok o) = true := by
  cases pass with
  | recommendations => exact absurd rfl hpass
  | _ => rfl

namespace Engine

/-- A visit to the entity comes to the result without doing more than raise the version of a record. -/
inductive Rests (e : Engine) (s : Store) : Pass → EntityRef → Except RiskError Outcome → Prop
  | fails {pass : Pass} {z : EntityRef} {error : RiskError} (hpass : pass ≠ .recommendations)
      (hverdict : e.verdict s z = .error (.failure error))
      (hread : s.knows z = true → ∃ r, s.riskRecord? z = some r) : Rests e s pass z (.error error)
  | settled {pass : Pass} {z : EntityRef} {v : Verdict} (hpass : pass ≠ .recommendations)
      (hverdict : e.verdict s z = .ok v) (hstored : s.riskRecord? z = some v.record)
      (hsettled : v.Settled (s.openAlert z)) : Rests e s pass z (.ok (v.outcome false))
  | supplier (id : SupplierId) : Rests e s .recommendations (.supplier id) (.ok {})
  | suggested {id : PartId} {r : RiskRecord} (hknown : s.knows (.part id) = true)
      (hstored : s.riskRecord? (.part id) = some r) (hnothing : e.drafts s id = []) :
      Rests e s .recommendations (.part id) (.ok {})
  | unknown {id : PartId} (hunknown : s.knows (.part id) = false) :
      Rests e s .recommendations (.part id) (.error (.notFound (.part id)))

variable {e : Engine} {s t : Store} {pass : Pass} {z : EntityRef} {result : Except RiskError Outcome}

/-- What the entity does not notice leaves it at rest. -/
theorem Rests.congr (hrests : e.Rests s pass z result) (hsame : Store.SameFor pass z s t) :
    e.Rests t pass z result := by
  have hknows := Store.knows_congr hsame.inventory z
  cases hrests with
  | fails hpass hverdict hread =>
      refine .fails hpass ((verdict_congr hsame.inventory hsame.risk).trans hverdict) fun hknown => ?_
      rw [hsame.risk]
      exact hread (hknows ▸ hknown)
  | settled hpass hverdict hstored hsettled =>
      refine .settled hpass ((verdict_congr hsame.inventory hsame.risk).trans hverdict) (hsame.risk.trans hstored) ?_
      rwa [hsame.alert hpass]
  | supplier id => exact .supplier id
  | suggested hknown hstored hnothing =>
      refine .suggested (hknows.trans hknown) (hsame.risk.trans hstored) ?_
      rw [drafts_congr hsame.inventory hsame.risk (hsame.suggestions rfl _ rfl), hnothing]
  | unknown hunknown => exact .unknown (hknows.trans hunknown)

/-- Nobody but the entity of a record notices that its version is raised. -/
theorem sameFor_bumpRisk {z' : EntityRef} (hne : z ≠ z') (pass : Pass) (s : Store) :
    Store.SameFor pass z s (s.bumpRisk z') := by
  have hsame := s.sameBut_bumpRisk z'
  refine ⟨hsame.inventory, hsame.others z hne, fun _ => ?_, fun _ id _ => ?_⟩
  · rw [Store.openAlert, hsame.alerts, Store.openAlert]
  · rw [Store.recommendationsForPart, hsame.recommendations, Store.recommendationsForPart]

theorem openAlert_bumpRisk (s : Store) (z z' : EntityRef) : (s.bumpRisk z').openAlert z = s.openAlert z := by
  rw [Store.openAlert, (s.sameBut_bumpRisk z').alerts, Store.openAlert]

/-- A version that is raised leaves all entities at rest. -/
theorem Rests.bump (hrests : e.Rests s pass z result) (z' : EntityRef) : e.Rests (s.bumpRisk z') pass z result := by
  rcases eq_or_ne z z' with rfl | hne
  swap
  · exact hrests.congr (sameFor_bumpRisk hne pass s)
  -- The record is the one of this entity; verdicts and plans do not depend on its version.
  have hinventory := (s.sameBut_bumpRisk z).inventory
  have hknows := Store.knows_congr hinventory z
  have hraised {r : RiskRecord} (hstored : s.riskRecord? z = some r) : (s.bumpRisk z).riskRecord? z = some r.next := by
    rw [Store.bumpRisk_of_some hstored, Store.riskRecord?_putRisk, RiskRecord.entity_next,
      if_pos (Store.entity_of_riskRecord? hstored)]
  cases hrests with
  | @fails pass z error hpass hverdict hread =>
      have hunversioned := e.verdict_unversioned (s.bumpRisk z) z
      rw [Store.unversioned_bumpRisk, verdict_unversioned, hverdict] at hunversioned
      refine .fails hpass ?_ fun hknown => ?_
      · cases hagain : e.verdict (s.bumpRisk z) z with
        | ok v =>
            rw [hagain] at hunversioned
            cases hunversioned
        | error cause =>
            rw [hagain] at hunversioned
            cases hunversioned
            rfl
      · obtain ⟨r, hstored⟩ := hread (hknows ▸ hknown)
        exact ⟨r.next, hraised hstored⟩
  | @settled pass z v hpass hverdict hstored hsettled =>
      rw [← v.outcome_next]
      refine .settled hpass (verdict_again hverdict hinventory (hraised hstored)) ?_ ?_
      · rw [Verdict.record_next, hraised hstored]
      · rw [openAlert_bumpRisk]
        exact Verdict.settled_next.2 hsettled
  | supplier id => exact .supplier id
  | @suggested id r hknown hstored hnothing =>
      refine .suggested (hknows.trans hknown) (hraised hstored) ?_
      rw [← drafts_unversioned, Store.unversioned_bumpRisk, drafts_unversioned, hnothing]
  | unknown hunknown => exact .unknown (hknows.trans hunknown)

/-- A visit to an entity at rest comes to its result, and raises the version of a record at most. -/
theorem Rests.visitOn (hrests : e.Rests s pass z result) (hnext : pass.saves result = true → s.HasNextVersion z) :
    e.visitOn pass z (.plain s) =
      .ok ⟨z, result⟩ (.plain (if pass.saves result then s.bumpRisk z else s)) := by
  rw [visitOn_eq_ok_iff]
  cases hrests with
  | @fails pass z error hpass hverdict hread =>
      rw [deed_of_assesses hpass, assessing_of_error hverdict, pass.saves_error]
      dsimp only [readings]
      split
      · rename_i hknown
        obtain ⟨r, hstored⟩ := hread hknown
        refine ⟨Store.roomFor_risk.2 (Store.roomFor_nil _), rfl, congrArg FaultyStore.plain ?_⟩
        rw [recordFor, Store.riskOrFresh_of_stored hstored]
        exact ((s.write_risk r).trans (Store.putRisk_of_stored hstored)).symm
      · exact ⟨s.roomFor_nil, rfl, rfl⟩
  | @settled pass z v hpass hverdict hstored hsettled =>
      obtain ⟨hlogs, hwrite⟩ := hsettled.alertWrite? e.now
      have hsaves := Pass.saves_ok hpass (v.outcome false)
      rw [deed_of_assesses hpass, assessing_of_ok hverdict (hnext hsaves _ hstored), Verdict.settling, hlogs, hwrite,
        hsaves, if_pos rfl, Store.bumpRisk_of_some hstored, Store.roomFor_risk, Store.writes_cons, Store.write_risk]
      cases hopen : s.openAlert z with
      | none => exact ⟨Store.roomFor_nil _, rfl, rfl⟩
      | some a =>
          -- The alert is written as it is stored.
          have hmem : a ∈ (s.putRisk v.record.next).alerts.rows := by
            rw [Store.alerts_putRisk]
            exact (Store.of_openAlert hopen).1
          have hknows : (s.putRisk v.record.next).Knows (.alert false a none) := ⟨a, hmem, rfl, rfl, rfl⟩
          refine ⟨(Store.roomFor_singleton hknows).2 ⟨by rintro ⟨⟩, by rintro ⟨⟩, by rintro ⟨⟩⟩, rfl,
            congrArg FaultyStore.plain ?_⟩
          show _ = { s.putRisk v.record.next with alerts := (s.putRisk v.record.next).alerts.insert a }
          rw [Roster.insert_of_mem hmem]
  | supplier id => exact ⟨s.roomFor_nil, rfl, rfl⟩
  | @suggested id r hknown hstored hnothing =>
      rw [Engine.deed, suggesting_of_known hknown, hnothing, Store.riskOrFresh_of_stored hstored]
      refine ⟨Store.roomFor_risk.2 (Store.roomFor_nil _), rfl, congrArg FaultyStore.plain ?_⟩
      exact ((s.write_risk r).trans (Store.putRisk_of_stored hstored)).symm
  | unknown hunknown =>
      rw [Engine.deed, suggesting_of_unknown hunknown]
      exact ⟨s.roomFor_nil, rfl, rfl⟩

end Engine

/-- The visit of a run that comes after it: no event is logged and nothing suggested any more. -/
def Visit.again (v : Visit) : Visit :=
  { v with result := v.result.map fun o => { o with eventCreated := false, recommendations := 0 } }

namespace Engine

variable {e : Engine} {s t : Store} {pass : Pass} {z : EntityRef} {v : Visit}

/-- After its suggestions have been added, nothing is planned for a part. -/
theorem rests_after_suggesting (hroom : s.RoomFor (e.suggesting s z).writes)
    (hvisit : (e.suggesting s z).visit? z = some v) :
    e.Rests (s.writes (e.suggesting s z).writes) .recommendations z v.again.result := by
  cases z with
  | supplier id =>
      cases hvisit
      exact .supplier id
  | part id =>
      cases hknown : s.knows (.part id) with
      | false =>
          rw [suggesting_of_unknown hknown] at hvisit ⊢
          cases hvisit
          exact .unknown hknown
      | true =>
          rw [suggesting_of_known hknown] at hvisit hroom ⊢
          cases hvisit
          have hall := Store.suggestsAll_iff.2 (Store.roomFor_suggestions.1 (Store.roomFor_risk.1 hroom))
          rw [Store.writes_cons, Store.writes_suggestions, Store.write_risk]
          have hstored : (s.putRisk (s.riskOrFresh 0 (.part id))).riskRecord? (.part id) =
              some (s.riskOrFresh 0 (.part id)) := by
            rw [Store.riskRecord?_putRisk, Store.entity_riskOrFresh, if_pos rfl]
          have hbefore (part : PartId) (supplier : SupplierId) :
              (s.putRisk (s.riskOrFresh 0 (.part id))).isSuggested part supplier = s.isSuggested part supplier := by
            cases s.riskOrFresh 0 (.part id) <;> rfl
          have hinventory := s.inventory_putRisk (s.riskOrFresh 0 (.part id))
          generalize s.putRisk (s.riskOrFresh 0 (.part id)) = t at hall hstored hbefore hinventory ⊢
          -- Suggestions leave everything else as it is.
          have hrest := t.foldl_suggest (e.drafts s id)
          have hrows := (Store.numbered_suggestions hall).rows
          have hsuggested (supplier : SupplierId) := Store.isSuggested_foldl_suggest hrows id supplier
          generalize (e.drafts s id).foldl Store.suggest t = u at hrest hsuggested ⊢
          have hinventory' : u.inventory = s.inventory := (congrArg Store.inventory hrest).trans hinventory
          have hstored' : u.riskRecord? (.part id) = some (s.riskOrFresh 0 (.part id)) :=
            (congrArg (fun t : Store => t.riskRecord? (.part id)) hrest).trans hstored
          refine .suggested ((Store.knows_congr hinventory' _).trans hknown) hstored' ?_
          refine drafts_again hinventory' (Store.riskOrFresh_of_stored hstored') (fun d hd => ?_) fun supplier h => ?_
          · exact (hsuggested _).2 (.inr ⟨d, hd, part_of_mem_drafts hd, rfl⟩)
          · exact (hsuggested _).2 (.inl ((hbefore id supplier).trans h))

/-- After its assessment an entity comes to the same verdict, which is settled. -/
theorem rests_after_assessing (hpass : pass ≠ .recommendations) (hone : s.OneOpen)
    (hroom : s.RoomFor (e.assessing s z).writes) (hvisit : (e.assessing s z).visit? z = some v) :
    e.Rests (s.writes (e.assessing s z).writes) pass z v.again.result := by
  cases hverdict : e.verdict s z with
  | error cause =>
      rw [assessing_of_error hverdict] at hvisit ⊢
      rw [(e.writes_readings s z).2]
      cases cause with
      | calendar => cases hvisit
      | word => cases hvisit
      | failure error =>
          cases hvisit
          refine .fails hpass ((e.verdict_afterReads s z).trans hverdict) fun hknown => ?_
          rw [afterReads, Store.knows_congr (Store.inventory_withRisk ..)] at hknown
          exact ⟨_, Store.riskRecord?_withRisk hknown⟩
  | ok v =>
      cases hversion : Word.hasNext v.record.version with
      | false =>
          rw [assessing_of_worn hverdict hversion] at hvisit
          cases hvisit
      | true =>
          obtain ⟨hentity, -, -⟩ := verdict_eq_ok hverdict
          rw [assessing_of_ok hverdict hversion] at hvisit hroom ⊢
          cases hvisit
          have hroom := Store.roomFor_risk.1 hroom
          rw [Store.writes_cons, Store.write_risk]
          have hopen : (s.putRisk v.record.next).openAlert z = s.openAlert z := by
            rw [Store.openAlert, Store.alerts_putRisk]
            rfl
          rw [← hopen] at hroom ⊢
          have hsettled := v.settled_after e.now (hone.congr (s.alerts_putRisk v.record.next))
          rw [hentity] at hsettled
          -- Settling writes alerts and events only.
          have hkeeps (t : Store) (current : Option Alert) :
              (t.writes (v.settling e.now current).writes).inventory = t.inventory ∧
                (t.writes (v.settling e.now current).writes).riskRecord? z = t.riskRecord? z := by
            unfold Verdict.settling Verdict.alertWrite?
            cases v.handsOn e.now current with
            | none => exact ⟨rfl, rfl⟩
            | some a => exact ⟨rfl, by cases z <;> rfl⟩
          obtain ⟨hinventory, hstored⟩ := hkeeps (s.putRisk v.record.next)
            ((s.putRisk v.record.next).openAlert z)
          rw [Store.riskRecord?_putRisk, RiskRecord.entity_next, if_pos hentity] at hstored
          show e.Rests _ pass z (.ok (v.outcome false))
          rw [← v.outcome_next]
          refine .settled hpass (verdict_again hverdict (hinventory.trans (s.inventory_putRisk _)) hstored) ?_
            (Verdict.settled_next.2 (hsettled hroom))
          rw [Verdict.record_next, hstored]

/-- Work on an entity leaves it at rest. -/
theorem rests_after_deed (hone : s.OneOpen) (hroom : s.RoomFor (e.deed pass s z).writes)
    (hvisit : (e.deed pass s z).visit? z = some v) :
    e.Rests (s.writes (e.deed pass s z).writes) pass z v.again.result := by
  by_cases hpass : pass = .recommendations
  · subst hpass
    exact rests_after_suggesting hroom hvisit
  · rw [deed_of_assesses hpass] at hvisit hroom ⊢
    exact rests_after_assessing hpass hone hroom hvisit

/-! ## Tours over entities at rest -/

variable {targets : List EntityRef} {visits : List Visit}

/-- Work on an entity gives no entity a second open alert. -/
theorem oneOpen_deed (hone : s.OneOpen) (hroom : s.RoomFor (e.deed pass s z).writes) :
    (s.writes (e.deed pass s z).writes).OneOpen := by
  have hkept := Script.run_stable Store.oneOpen_stable (Script.only_all (e.work pass z)) (.plain s) hone
  rwa [(e.deed_ends pass s z).eq_done hroom] at hkept

/-- A tour leaves all entities that it visits at rest. -/
theorem rests_after_tour (hnodup : targets.Nodup) (hone : s.OneOpen)
    (htour : e.tour pass targets (.plain s) = .ok visits (.plain t)) :
    ∀ v ∈ visits, e.Rests t pass v.entity v.again.result := by
  induction targets generalizing s visits with
  | nil =>
      cases htour
      exact fun v hv => absurd hv List.not_mem_nil
  | cons z rest ih =>
      obtain ⟨hfresh, hrest⟩ := List.nodup_cons.1 hnodup
      obtain ⟨v, vs, hroom, hv, rfl, rfl, htours⟩ := of_tour_cons htour
      obtain ⟨hrooms, -, -, ht⟩ := answers_of_tour hrest htours
      obtain rfl : t = _ := congrArg FaultyStore.store ht
      intro u hu
      rcases List.mem_cons.1 hu with rfl | hu
      · -- The visits that follow go to other entities.
        exact (rests_after_deed hone hroom hv).congr (sameFor_writesOf e hrest hfresh hrooms pass)
      · exact ih hrest (oneOpen_deed hone hroom) htours u hu

end Engine

/-- The entities of the records whose version visits raise. -/
def Pass.saved (pass : Pass) (visits : List Visit) : List EntityRef :=
  (visits.filter fun v => pass.saves v.result).map (·.entity)

theorem Pass.saved_cons (pass : Pass) (v : Visit) (visits : List Visit) :
    pass.saved (v :: visits) = (if pass.saves v.result then [v.entity] else []) ++ pass.saved visits := by
  unfold saved
  rw [List.filter_cons]
  split <;> rfl

theorem Pass.saved_subset (pass : Pass) (visits : List Visit) : pass.saved visits ⊆ visits.map (·.entity) :=
  (List.filter_sublist.map _).subset

/-- The store with versions raised. -/
def Store.raised (s : Store) (entities : List EntityRef) : Store := entities.foldl bumpRisk s

theorem Store.raised_append (s : Store) (zs us : List EntityRef) : s.raised (zs ++ us) = (s.raised zs).raised us :=
  List.foldl_append

namespace Engine

variable {e : Engine} {s t : Store} {pass : Pass} {z : EntityRef} {visits : List Visit}

theorem Rests.raised {result : Except RiskError Outcome} (hrests : e.Rests s pass z result) (zs : List EntityRef) :
    e.Rests (s.raised zs) pass z result := by
  induction zs generalizing s with
  | nil => exact hrests
  | cons z' zs ih => exact ih (hrests.bump z')

theorem hasNextVersion_bump {z z' : EntityRef} (hnext : s.HasNextVersion z) (hne : z ≠ z') :
    (s.bumpRisk z').HasNextVersion z := by
  unfold Store.HasNextVersion
  rwa [(s.sameBut_bumpRisk z').others z hne]

/-- A tour over entities at rest comes to the same results, and raises versions at most. -/
theorem tour_of_rests (visits : List Visit) (hnodup : (visits.map (·.entity)).Nodup)
    (hrests : ∀ v ∈ visits, e.Rests s pass v.entity v.result) (hnext : ∀ z ∈ pass.saved visits, s.HasNextVersion z) :
    e.tour pass (visits.map (·.entity)) (.plain s) = .ok visits (.plain (s.raised (pass.saved visits))) := by
  induction visits generalizing s with
  | nil => rfl
  | cons v vs ih =>
      obtain ⟨hfresh, hnodup⟩ := List.nodup_cons.1 hnodup
      rw [Pass.saved_cons] at hnext ⊢
      have hfirst := (hrests v (by simp)).visitOn fun hsaves => hnext v.entity (by simp [hsaves])
      have hrest := ih (s := if pass.saves v.result then s.bumpRisk v.entity else s) hnodup
        (fun u hu => by
          split
          · exact (hrests u (by simp [hu])).bump v.entity
          · exact hrests u (by simp [hu]))
        fun z hz => by
          have hz' := hnext z (List.mem_append_right _ hz)
          split
          · exact hasNextVersion_bump hz' fun h => hfresh (show v.entity ∈ _ from h ▸ pass.saved_subset vs hz)
          · exact hz'
      simp only [List.map_cons, tour, OnStore.bind_apply, OnStore.pure_apply, hfirst, hrest]
      cases pass.saves v.result <;> rfl

end Engine

end SupplyRisk
