import SupplyRisk.Proofs.Engine.Order
import SupplyRisk.Proofs.Engine.Rest

/-!
# Repeated runs

The passes of a run leave the entities that they visit at rest, and no later pass wakes them.  A second run at the
same instant finds the same targets, and each of its visits comes to what it came to before, but for events and
suggestions.  It raises the versions of the records that it assesses and does nothing else, whoever visits the targets
of either run (`repeated_run_raises_versions`).
-/

namespace SupplyRisk

namespace Tally

/-- The tally without events and suggestions. -/
def again (t : Tally) : Tally := { t with eventsCreated := 0, recommendations := 0 }

/-- Visits that come again count the same but for events and suggestions. -/
theorem ofVisits_again (pass : Pass) (visits : List Visit) :
    ofVisits pass (visits.map Visit.again) = (ofVisits pass visits).again := by
  induction visits with
  | nil => rfl
  | cons v vs ih =>
      have hfirst : ofVisit pass v.again = (ofVisit pass v).again := by
        obtain ⟨entity, result⟩ := v
        cases result <;> rfl
      rw [List.map_cons, ofVisits, ofVisits, ih, hfirst]
      rfl

/-- An assessment pass raises the versions for the entities that did not fail. -/
theorem saved_eq_filter {pass : Pass} (hpass : pass ≠ .recommendations) {visits : List Visit}
    (hnodup : (visits.map (·.entity)).Nodup) :
    pass.saved visits = (visits.map (·.entity)).filter (fun z => !(ofVisits pass visits).failed.contains z) := by
  induction visits with
  | nil => rfl
  | cons v vs ih =>
      obtain ⟨hfresh, hrest⟩ := List.nodup_cons.1 hnodup
      have ih := ih hrest
      obtain ⟨entity, result⟩ := v
      rw [Pass.saved_cons, ih, List.map_cons]
      cases result with
      | ok o =>
          have hnew : (ofVisits pass vs).failed.contains entity = false := by
            simpa using fun hmem => hfresh ((failed_sublist pass vs).subset hmem)
          have hfailed : (ofVisits pass (⟨entity, .ok o⟩ :: vs)).failed = (ofVisits pass vs).failed := rfl
          rw [hfailed, List.filter_cons_of_pos (by rw [hnew]; rfl), if_pos (Pass.saves_ok hpass o)]
          rfl
      | error error =>
          have hfailed : (ofVisits pass (⟨entity, .error error⟩ :: vs)).failed =
              entity :: (ofVisits pass vs).failed := rfl
          rw [hfailed, List.filter_cons_of_neg (by simp), if_neg (by simp [pass.saves_error]), List.nil_append]
          refine List.filter_congr fun z hz => ?_
          have hne : z ≠ entity := fun h => hfresh (h ▸ hz)
          simp [hne]

end Tally

/-! ## Targets -/

namespace Pass

/-- Versions have no part in what is listed. -/
theorem targets_unversioned (pass : Pass) (s : Store) : pass.targets s.unversioned = pass.targets s := by
  cases pass with
  | suppliers => rfl
  | parts => rfl
  | recommendations =>
      show ((s.partRisks.rows.map PartRisk.unversioned).filter (·.isEligible)).map (·.entity) = _
      rw [List.filter_map, List.map_map]
      rfl

end Pass

namespace Store

variable {s t : Store} {zs : List EntityRef} {z : EntityRef}

/-- Every stored version leaves room for a greater one. -/
def VersionsFit (s : Store) : Prop :=
  (∀ r ∈ s.supplierRisks.rows, r.version.toNat + 1 < Word.count64) ∧
    ∀ r ∈ s.partRisks.rows, r.version.toNat + 1 < Word.count64

instance (s : Store) : Decidable s.VersionsFit := inferInstanceAs (Decidable (_ ∧ _))

theorem VersionsFit.version_lt (hfit : s.VersionsFit) {r : RiskRecord} (hstored : s.riskRecord? z = some r) :
    r.version.toNat + 1 < Word.count64 := by
  cases z with
  | supplier id =>
      obtain ⟨record, hfind, rfl⟩ := Option.map_eq_some_iff.1 hstored
      exact hfit.1 record (Roster.find?_eq_some_iff.1 hfind).1
  | part id =>
      obtain ⟨record, hfind, rfl⟩ := Option.map_eq_some_iff.1 hstored
      exact hfit.2 record (Roster.find?_eq_some_iff.1 hfind).1

theorem VersionsFit.hasNextVersion (hfit : s.VersionsFit) (z : EntityRef) : s.HasNextVersion z :=
  fun _ hstored => decide_eq_true (hfit.version_lt hstored)

theorem unversioned_raised (s : Store) (zs : List EntityRef) : (s.raised zs).unversioned = s.unversioned := by
  induction zs generalizing s with
  | nil => rfl
  | cons z zs ih => exact (ih (s.bumpRisk z)).trans (s.unversioned_bumpRisk z)

/-- Each of different entities has its version raised once. -/
theorem riskRecord?_raised (hnodup : zs.Nodup) (z : EntityRef) :
    (s.raised zs).riskRecord? z = if z ∈ zs then (s.riskRecord? z).map RiskRecord.next else s.riskRecord? z := by
  induction zs generalizing s with
  | nil => rfl
  | cons z' zs ih =>
      obtain ⟨hfresh, hnodup⟩ := List.nodup_cons.1 hnodup
      refine (ih (s := s.bumpRisk z') hnodup).trans ?_
      by_cases hsame : z = z'
      · subst hsame
        rw [if_neg hfresh, if_pos (List.mem_cons_self ..)]
        cases hstored : s.riskRecord? z with
        | none => rw [bumpRisk_of_none hstored, hstored, Option.map_none]
        | some r =>
            rw [bumpRisk_of_some hstored, riskRecord?_putRisk, RiskRecord.entity_next,
              if_pos (entity_of_riskRecord? hstored), Option.map_some]
      · have hmem : z ∈ z' :: zs ↔ z ∈ zs := by simp [hsame]
        simp only [hmem, (s.sameBut_bumpRisk z').others z hsame]

theorem hasNextVersion_raised (hnext : s.HasNextVersion z) (hnodup : zs.Nodup) (hz : z ∉ zs) :
    (s.raised zs).HasNextVersion z := by
  unfold HasNextVersion
  rwa [riskRecord?_raised hnodup, if_neg hz]

/-- The order in which versions are raised does not matter. -/
theorem riskRecord?_raised_perm {zs' : List EntityRef} (hnodup : zs.Nodup) (hperm : zs.Perm zs') (z : EntityRef) :
    (s.raised zs').riskRecord? z = (s.raised zs).riskRecord? z := by
  rw [riskRecord?_raised hnodup, riskRecord?_raised (hperm.nodup_iff.1 hnodup)]
  simp only [hperm.mem_iff]

end Store

/-! ## Visits that come again -/

/-- A visit that comes again saves the same record. -/
theorem Pass.saved_again (pass : Pass) (visits : List Visit) :
    pass.saved (visits.map Visit.again) = pass.saved visits := by
  have hsaves (v : Visit) : pass.saves v.again.result = pass.saves v.result := by
    obtain ⟨entity, result⟩ := v
    cases result <;> cases pass <;> rfl
  have hfun : (fun v : Visit => pass.saves v.result) ∘ Visit.again = fun v => pass.saves v.result :=
    funext hsaves
  rw [saved, saved, List.filter_map, List.map_map, hfun]
  rfl

theorem Pass.saved_perm {visits visits' : List Visit} (pass : Pass) (hperm : visits.Perm visits') :
    (pass.saved visits).Perm (pass.saved visits') := (hperm.filter _).map _

theorem Pass.saved_recommendations (visits : List Visit) : Pass.recommendations.saved visits = [] := by
  have hnone : visits.filter (fun v => Pass.recommendations.saves v.result) = [] :=
    List.filter_eq_nil_iff.2 fun v _ => Bool.false_ne_true
  rw [Pass.saved, hnone, List.map_nil]

namespace Visit

theorem map_entity_again (visits : List Visit) :
    (visits.map again).map (·.entity) = visits.map (·.entity) := by
  rw [List.map_map]
  rfl

/-- Another order of the entities is one of the visits. -/
theorem exists_perm {visits : List Visit} {targets : List EntityRef} (hperm : (visits.map (·.entity)).Perm targets) :
    ∃ visits', visits.Perm visits' ∧ visits'.map (·.entity) = targets := by
  generalize hentities : visits.map (·.entity) = entities at hperm
  induction hperm generalizing visits with
  | nil => exact ⟨visits, .refl _, hentities⟩
  | cons z _ ih =>
      obtain ⟨v, vs, rfl, rfl, hrest⟩ := List.map_eq_cons_iff.1 hentities
      obtain ⟨vs', hvs, htargets⟩ := ih hrest
      exact ⟨v :: vs', hvs.cons v, congrArg (List.cons v.entity) htargets⟩
  | swap z z' _ =>
      obtain ⟨v, vs, rfl, rfl, hrest⟩ := List.map_eq_cons_iff.1 hentities
      obtain ⟨u, us, rfl, rfl, rfl⟩ := List.map_eq_cons_iff.1 hrest
      exact ⟨u :: v :: us, .swap u v us, rfl⟩
  | trans _ _ ihfirst ihsecond =>
      obtain ⟨vs, hvs, hmiddle⟩ := ihfirst hentities
      obtain ⟨us, hus, htargets⟩ := ihsecond hmiddle
      exact ⟨us, hvs.trans hus, htargets⟩

end Visit

/-! ## The visits of a run -/

/-- The visits of the passes of a run. -/
structure Journey where
  suppliers : List Visit
  parts : List Visit
  suggested : List Visit

namespace Journey

/-- What the visits add up to. -/
def summary (j : Journey) : RunSummary :=
  ((({} : RunSummary).addSuppliers (.ofVisits .suppliers j.suppliers)).addParts
    (.ofVisits .parts j.parts)).addRecommendations (.ofVisits .recommendations j.suggested)

/-- The journey of a run that comes after it. -/
def again (j : Journey) : Journey :=
  ⟨j.suppliers.map Visit.again, j.parts.map Visit.again, j.suggested.map Visit.again⟩

/-- The entities of the records whose version the visits raise. -/
def saved (j : Journey) : List EntityRef := Pass.suppliers.saved j.suppliers ++ Pass.parts.saved j.parts

/-- No pass visits an entity twice. -/
structure Once (j : Journey) : Prop where
  suppliers : (j.suppliers.map (·.entity)).Nodup
  parts : (j.parts.map (·.entity)).Nodup
  suggested : (j.suggested.map (·.entity)).Nodup

/-- Each pass makes the same visits, in another order. -/
structure Reorders (j k : Journey) : Prop where
  suppliers : j.suppliers.Perm k.suppliers
  parts : j.parts.Perm k.parts
  suggested : j.suggested.Perm k.suggested

variable {j k : Journey}

theorem errors_summary (j : Journey) : j.summary.errors =
    (Tally.ofVisits .suppliers j.suppliers).failures ++ (Tally.ofVisits .parts j.parts).failures ++
      (Tally.ofVisits .recommendations j.suggested).failures := rfl

theorem summary_again (j : Journey) :
    j.again.summary = { j.summary with recommendationsGenerated := 0, riskEventsCreated := 0 } := by
  simp only [summary, again, Tally.ofVisits_again]
  rfl

theorem operation_ne_of_mem {f : Failure} (hmem : f ∈ j.summary.errors) : f.operation ≠ .alertDispatch := by
  rw [errors_summary] at hmem
  rcases List.mem_append.1 hmem with hmem | hmem
  · rcases List.mem_append.1 hmem with hmem | hmem
    · rw [Tally.operation_of_mem_failures hmem]
      decide
    · rw [Tally.operation_of_mem_failures hmem]
      decide
  · rw [Tally.operation_of_mem_failures hmem]
    decide

/-- A failure tells by its operation of which pass it is. -/
theorem Once.apart (honce : j.Once) : Failure.Apart j.summary.errors := by
  have hpass {pass pass' : Pass} {visits visits' : List Visit} {f g : Failure} (hne : pass.operation ≠ pass'.operation)
      (hf : f ∈ (Tally.ofVisits pass visits).failures) (hg : g ∈ (Tally.ofVisits pass' visits').failures) :
      f.operation ≠ g.operation := by
    rwa [Tally.operation_of_mem_failures hf, Tally.operation_of_mem_failures hg]
  intro f hf g hg hentity hoperation
  simp only [errors_summary, List.mem_append] at hf hg
  rcases hf with (hf | hf) | hf <;> rcases hg with (hg | hg) | hg
  · exact Tally.eq_of_failures honce.suppliers hf hg hentity
  · exact absurd hoperation (hpass (by decide) hf hg)
  · exact absurd hoperation (hpass (by decide) hf hg)
  · exact absurd hoperation (hpass (by decide) hf hg)
  · exact Tally.eq_of_failures honce.parts hf hg hentity
  · exact absurd hoperation (hpass (by decide) hf hg)
  · exact absurd hoperation (hpass (by decide) hf hg)
  · exact absurd hoperation (hpass (by decide) hf hg)
  · exact Tally.eq_of_failures honce.suggested hf hg hentity

namespace Reorders

variable (hreorders : j.Reorders k)
include hreorders

theorem saved : j.saved.Perm k.saved :=
  (Pass.saved_perm .suppliers hreorders.suppliers).append (Pass.saved_perm .parts hreorders.parts)

theorem errors : j.summary.errors.Perm k.summary.errors :=
  ((Tally.failures_ofVisits_perm .suppliers hreorders.suppliers).append
    (Tally.failures_ofVisits_perm .parts hreorders.parts)).append
      (Tally.failures_ofVisits_perm .recommendations hreorders.suggested)

/-- But for the order of failures, the visits add up to the same. -/
theorem summary : k.summary = { j.summary with errors := k.summary.errors } := by
  have hsuppliers := Tally.counters_ofVisits_perm .suppliers hreorders.suppliers
  have hparts := Tally.counters_ofVisits_perm .parts hreorders.parts
  have hsuggested := Tally.counters_ofVisits_perm .recommendations hreorders.suggested
  simp only [Tally.counters, Tally.mk.injEq, and_true] at hsuppliers hparts hsuggested
  simp only [Journey.summary, RunSummary.addSuppliers, RunSummary.addParts, RunSummary.addRecommendations,
    RunSummary.addPass, hsuppliers, hparts, hsuggested]

end Reorders

end Journey

/-! ## Alerts that are offered again -/

/-- The summary with the report on the alerts that were offered. -/
def RunSummary.withReport (s : RunSummary) (report : DispatchReport) : RunSummary :=
  { s with alertsDispatched := report.sent, errors := s.errors ++ report.failed }

/-- The summary without what the sink has answered. -/
def RunSummary.ofPasses (s : RunSummary) : RunSummary :=
  { s with alertsDispatched := 0, errors := s.errors.filter (fun f => f.operation ≠ .alertDispatch) }

namespace Engine

variable {e : Engine} {s t u : Store} {pass : Pass} {options : RunOptions} {summary summary' : RunSummary}
  {visits : List Visit}

/-- The report on the alerts that are due, if they are to be offered at all. -/
def report? (e : Engine) (wanted : Bool) (sink : Sink) (alerts : Roster Alert) : Option DispatchReport :=
  if wanted then (dueNotifications? alerts.rows e.now e.config.alerts.lookbackHours).map (dispatch sink) else some {}

/-- What an offer adds to a summary in which no alert is counted yet. -/
theorem offer_eq (wanted : Bool) (sink : Sink) (hnone : summary.alertsDispatched = 0) (f : FaultyStore) :
    e.offer wanted sink summary f =
      match e.report? wanted sink f.store.alerts with
      | none => .error .calendar f
      | some report => .ok (summary.withReport report) f := by
  cases wanted with
  | false =>
      show EStateM.Result.ok summary f = .ok { summary with alertsDispatched := 0, errors := summary.errors ++ [] } f
      rw [List.append_nil, ← hnone]
  | true =>
      simp only [offer, report?, if_true, OnStore.bind_apply, OnStore.pure_apply, due]
      cases dueNotifications? f.store.alerts.rows e.now e.config.alerts.lookbackHours <;> rfl

/-- Whether alerts can be offered does not depend on the sink. -/
theorem exists_report {wanted : Bool} {sink : Sink} {alerts : Roster Alert} {report : DispatchReport}
    (hreport : e.report? wanted sink alerts = some report) (sink' : Sink) :
    ∃ report', e.report? wanted sink' alerts = some report' := by
  cases wanted with
  | false => exact ⟨_, rfl⟩
  | true =>
      obtain ⟨offers, hoffers, -⟩ := Option.map_eq_some_iff.1 hreport
      exact ⟨dispatch sink' offers, Option.map_eq_some_iff.2 ⟨offers, hoffers, rfl⟩⟩

theorem operation_of_report {wanted : Bool} {sink : Sink} {alerts : Roster Alert} {report : DispatchReport}
    (hreport : e.report? wanted sink alerts = some report) : ∀ x ∈ report.failed, x.operation = .alertDispatch := by
  cases wanted with
  | false =>
      cases hreport
      exact fun x hx => absurd hx List.not_mem_nil
  | true =>
      obtain ⟨offers, -, rfl⟩ := Option.map_eq_some_iff.1 hreport
      exact operation_of_dispatch sink offers

/-- Where no entity has two open alerts, the sink fails once for an entity at most. -/
theorem nodup_report {wanted : Bool} {sink : Sink} {report : DispatchReport} (hone : s.OneOpen)
    (hreport : e.report? wanted sink s.alerts = some report) : (report.failed.map (·.entity)).Nodup := by
  cases wanted with
  | false =>
      cases hreport
      exact .nil
  | true =>
      obtain ⟨offers, hoffers, rfl⟩ := Option.map_eq_some_iff.1 hreport
      obtain ⟨cutoff, -, rfl⟩ := Option.map_eq_some_iff.1 hoffers
      exact (nodup_entities_dueSince hone cutoff).sublist (failed_sublist_offers sink _)

end Engine

namespace Journey

variable {j k : Journey} (hreorders : j.Reorders k) (honce : j.Once)
include hreorders honce

/-- Whatever sinks answer, the order of visits does not show in what the passes report. -/
theorem ofPasses_sortErrors {report report' : DispatchReport}
    (hfailed : ∀ x ∈ report.failed, x.operation = .alertDispatch)
    (hfailed' : ∀ x ∈ report'.failed, x.operation = .alertDispatch) :
    (k.summary.withReport report').sortErrors.ofPasses = (j.summary.withReport report).sortErrors.ofPasses := by
  let keep := fun f : Failure => decide (f.operation ≠ .alertDispatch)
  have hkept {j : Journey} {failed : List Failure} (hfailed : ∀ x ∈ failed, x.operation = .alertDispatch) :
      (((j.summary.errors ++ failed).mergeSort Failure.le).filter keep).Perm j.summary.errors := by
    refine ((List.mergeSort_perm _ _).filter _).trans (.of_eq ?_)
    rw [List.filter_append, List.filter_eq_self.2 fun f hf => decide_eq_true (operation_ne_of_mem hf),
      List.filter_eq_nil_iff.2 fun f hf => by simp [keep, hfailed f hf], List.append_nil]
  have hsorted {errors : List Failure} :
      ((errors.mergeSort Failure.le).filter keep).Pairwise (fun a b => a.le b = true) :=
    (RunSummary.pairwise_sortErrors { errors }).filter _
  have herrors : ((k.summary.errors ++ report'.failed).mergeSort Failure.le).filter keep =
      ((j.summary.errors ++ report.failed).mergeSort Failure.le).filter keep := by
    refine (Failure.Apart.eq_of_perm (fun f hf g hg => ?_) ?_ hsorted hsorted).symm
    · exact honce.apart f ((hkept hfailed).mem_iff.1 hf) g ((hkept hfailed).mem_iff.1 hg)
    · exact (hkept hfailed).trans (hreorders.errors.trans (hkept hfailed').symm)
  rw [hreorders.summary]
  exact congrArg (fun errors => { j.summary with alertsDispatched := 0, errors }) herrors

/-- With the same answers the summaries are the same. -/
theorem sortErrors_withReport {report : DispatchReport} (hfailed : ∀ x ∈ report.failed, x.operation = .alertDispatch)
    (hnodup : (report.failed.map (·.entity)).Nodup) :
    (k.summary.withReport report).sortErrors = (j.summary.withReport report).sortErrors := by
  have hapart : Failure.Apart (j.summary.errors ++ report.failed) := by
    intro f hf g hg hentity hoperation
    rcases List.mem_append.1 hf with hf | hf <;> rcases List.mem_append.1 hg with hg | hg
    · exact honce.apart f hf g hg hentity hoperation
    · exact absurd (hoperation.trans (hfailed g hg)) (operation_ne_of_mem hf)
    · exact absurd (hoperation.symm.trans (hfailed f hf)) (operation_ne_of_mem hg)
    · exact List.inj_on_of_nodup_map hnodup hf hg hentity
  have herrors : (k.summary.errors ++ report.failed).mergeSort Failure.le =
      (j.summary.errors ++ report.failed).mergeSort Failure.le :=
    (hapart.sort_eq (hreorders.errors.append_right _)).symm
  rw [hreorders.summary]
  exact congrArg (fun errors => { j.summary with alertsDispatched := report.sent, errors }) herrors

end Journey

/-! ## Runs -/

namespace Engine

variable {e : Engine} {s s₁ s₂ t u : Store} {pass : Pass} {options : RunOptions} {summary summary' : RunSummary}
  {visits : List Visit} {j : Journey}

/-- A pass of a run without a time limit over a store without faults has made these visits. -/
def Toured (e : Engine) (options : RunOptions) (pass : Pass) (s t : Store) (visits : List Visit) : Prop :=
  ∃ targets, targets.Perm (pass.asked options s) ∧ e.tour pass targets (.plain s) = .ok visits (.plain t)

theorem toured_of_round {add : RunSummary → Tally → RunSummary} {crew : Crew} {g : FaultyStore}
    (hadd : add summary {} = summary)
    (hround : e.round crew.route (pass.wanted options) pass .endless add summary (.plain s) = .ok summary' g) :
    ∃ t visits, g = .plain t ∧ e.Toured options pass s t visits ∧ summary' = add summary (.ofVisits pass visits) := by
  obtain ⟨targets, visits, hperm, htour, rfl⟩ := tour_of_round hadd hround
  obtain ⟨t, rfl⟩ : ∃ t, g = .plain t := ⟨_, plain_of_tour htour⟩
  exact ⟨t, visits, rfl, ⟨targets, hperm, htour⟩, rfl⟩

namespace Toured

theorem entities (htoured : e.Toured options pass s t visits) :
    (visits.map (·.entity)).Perm (pass.asked options s) := by
  obtain ⟨targets, hperm, htour⟩ := htoured
  rwa [entities_of_tour htour]

theorem nodup (htoured : e.Toured options pass s t visits) : (visits.map (·.entity)).Nodup :=
  htoured.entities.nodup_iff.2 (pass.nodup_asked options s)

/-- The inventory stays as it was, and recommending leaves risk records as they were. -/
theorem frame (htoured : e.Toured options pass s t visits) :
    t.inventory = s.inventory ∧
      (pass = .recommendations → t.supplierRisks = s.supplierRisks ∧ t.partRisks = s.partRisks) := by
  obtain ⟨targets, hperm, htour⟩ := htoured
  have hframe := e.tour_frame pass targets (.plain s) fun _ hz => mem_targets_of_asked (hperm.subset hz)
  rwa [OnStore.after_of_ok htour] at hframe

/-- No entity gets a second open alert. -/
theorem oneOpen (htoured : e.Toured options pass s t visits) (hone : s.OneOpen) : t.OneOpen := by
  obtain ⟨targets, -, htour⟩ := htoured
  have hkept := e.tour_keeps pass (I := fun f => f.store.OneOpen) targets (f := .plain s)
    (fun z _ f hf => Script.run_stable Store.oneOpen_stable (Script.only_all _) f hf) hone
  rwa [OnStore.after_of_ok htour] at hkept

/-- What is visited is at rest. -/
theorem rests (htoured : e.Toured options pass s t visits) (hone : s.OneOpen) :
    ∀ v ∈ visits, e.Rests t pass v.entity v.again.result := by
  obtain ⟨targets, hperm, htour⟩ := htoured
  exact rests_after_tour (hperm.nodup_iff.2 (pass.nodup_asked options s)) hone htour

/-- Assessing parts is not noticed by suppliers. -/
theorem sameFor_supplier (htoured : e.Toured options .parts s t visits) (id : SupplierId) :
    Store.SameFor .suppliers (.supplier id) s t := by
  obtain ⟨targets, hperm, htour⟩ := htoured
  have hnodup := hperm.nodup_iff.2 (Pass.nodup_asked ..)
  obtain ⟨hroom, -, -, ht⟩ := answers_of_tour hnodup htour
  obtain rfl : t = _ := congrArg FaultyStore.store ht
  refine sameFor_writesOf e hnodup (fun hmem => ?_) hroom .suppliers
  obtain ⟨part, hpart⟩ := Pass.part_of_mem_asked (hperm.subset hmem)
  cases hpart

/-- Recommending leaves the alerts alone. -/
theorem alerts (htoured : e.Toured options .recommendations s t visits) : t.alerts = s.alerts := by
  obtain ⟨targets, -, htour⟩ := htoured
  have hkept := e.tour_keeps .recommendations (I := fun f => f.store.alerts = s.alerts) targets
    (f := .plain s) (fun z _ f hf => ?_) rfl
  · rwa [OnStore.after_of_ok htour] at hkept
  · have honly := Script.only_mono (e.only_recommend z) fun c => StoreCall.leavesLog_of_recommends
    exact (Store.sameLog_of_script honly f).alerts.trans hf

/-- Recommending is not noticed by assessments. -/
theorem sameFor_assessed (htoured : e.Toured options .recommendations s t visits) (hpass : pass ≠ .recommendations)
    (z : EntityRef) : Store.SameFor pass z s t := by
  obtain ⟨hinventory, hrisks⟩ := htoured.frame
  obtain ⟨hsupplierRisks, hpartRisks⟩ := hrisks rfl
  refine ⟨hinventory, Store.riskRecord?_congr hsupplierRisks hpartRisks z, fun _ => ?_, fun h => absurd h hpass⟩
  rw [Store.openAlert, htoured.alerts, Store.openAlert]

end Toured

/-- The passes of a run without a time limit over a store without faults have made these visits. -/
structure Travelled (e : Engine) (options : RunOptions) (s s₁ s₂ t : Store) (j : Journey) : Prop where
  suppliers : e.Toured options .suppliers s s₁ j.suppliers
  parts : e.Toured options .parts s₁ s₂ j.parts
  suggested : e.Toured options .recommendations s₂ t j.suggested

theorem travelled_of_rounds {crew : Crew} {g : FaultyStore}
    (hrounds : e.rounds crew.route options .endless (.plain s) = .ok summary g) :
    ∃ s₁ s₂ t j, g = .plain t ∧ e.Travelled options s s₁ s₂ t j ∧ summary = j.summary := by
  obtain ⟨counted₁, f₁, counted₂, f₂, hround₁, hround₂, hround₃⟩ := rounds_eq_ok hrounds
  obtain ⟨s₁, suppliers, rfl, hsuppliers, rfl⟩ := toured_of_round (RunSummary.addSuppliers_empty _) hround₁
  obtain ⟨s₂, parts, rfl, hparts, rfl⟩ := toured_of_round (RunSummary.addParts_empty _) hround₂
  obtain ⟨t, suggested, rfl, hsuggested, rfl⟩ := toured_of_round (RunSummary.addRecommendations_empty _) hround₃
  exact ⟨s₁, s₂, t, ⟨suppliers, parts, suggested⟩, rfl, ⟨hsuppliers, hparts, hsuggested⟩, rfl⟩

namespace Travelled

variable (htravelled : e.Travelled options s s₁ s₂ t j)
include htravelled

theorem once : j.Once :=
  ⟨htravelled.suppliers.nodup, htravelled.parts.nodup, htravelled.suggested.nodup⟩

theorem oneOpen (hone : s.OneOpen) : t.OneOpen :=
  htravelled.suggested.oneOpen (htravelled.parts.oneOpen (htravelled.suppliers.oneOpen hone))

/-- Assessing suppliers has not changed which parts there are. -/
theorem entities_parts : (j.parts.map (·.entity)).Perm (Pass.parts.asked options s) := by
  have hlisted : Pass.parts.asked options s₁ = Pass.parts.asked options s :=
    Pass.asked_congr (Pass.targets_congr htravelled.suppliers.frame.1 nofun)
  exact hlisted ▸ htravelled.parts.entities

/-- What was listed is listed again. -/
theorem asked_again : (j.suppliers.map (·.entity)).Perm (Pass.suppliers.asked options t) ∧
    (j.parts.map (·.entity)).Perm (Pass.parts.asked options t) ∧
      (j.suggested.map (·.entity)).Perm (Pass.recommendations.asked options t) := by
  obtain ⟨hinventory₃, hrisks⟩ := htravelled.suggested.frame
  have hinventory₂ : t.inventory = s₁.inventory := hinventory₃.trans htravelled.parts.frame.1
  have hinventory₁ : t.inventory = s.inventory := hinventory₂.trans htravelled.suppliers.frame.1
  have hlisted₁ : Pass.suppliers.asked options t = Pass.suppliers.asked options s :=
    Pass.asked_congr (Pass.targets_congr hinventory₁ nofun)
  have hlisted₂ : Pass.parts.asked options t = Pass.parts.asked options s₁ :=
    Pass.asked_congr (Pass.targets_congr hinventory₂ nofun)
  have hlisted₃ : Pass.recommendations.asked options t = Pass.recommendations.asked options s₂ :=
    Pass.asked_congr (Pass.targets_congr hinventory₃ fun h => (hrisks h).2)
  rw [hlisted₁, hlisted₂, hlisted₃]
  exact ⟨htravelled.suppliers.entities, htravelled.parts.entities, htravelled.suggested.entities⟩

/-- What is visited is at rest after its pass, and still so after the run. -/
theorem rests_again (hone : s.OneOpen) : (∀ v ∈ j.suppliers, e.Rests t .suppliers v.entity v.again.result) ∧
    (∀ v ∈ j.parts, e.Rests t .parts v.entity v.again.result) ∧
      ∀ v ∈ j.suggested, e.Rests t .recommendations v.entity v.again.result := by
  have hone₁ := htravelled.suppliers.oneOpen hone
  refine ⟨fun v hv => ?_, fun v hv => ?_, htravelled.suggested.rests (htravelled.parts.oneOpen hone₁)⟩
  · obtain ⟨id, hid⟩ := Pass.supplier_of_mem_asked (htravelled.suppliers.entities.subset (List.mem_map_of_mem hv))
    refine (htravelled.suppliers.rests hone v hv).congr
      (.trans ?_ (htravelled.suggested.sameFor_assessed (by decide) _))
    exact hid ▸ htravelled.parts.sameFor_supplier id
  · exact (htravelled.parts.rests hone₁ v hv).congr (htravelled.suggested.sameFor_assessed (by decide) _)

/-- No version is raised twice. -/
theorem nodup_saved : j.saved.Nodup := by
  have hsaved {pass : Pass} {visits : List Visit} (hnodup : (visits.map (·.entity)).Nodup) :
      (pass.saved visits).Nodup := hnodup.sublist (List.filter_sublist.map _)
  refine List.nodup_append.2 ⟨hsaved htravelled.once.suppliers, hsaved htravelled.once.parts, fun z hz z' hz' => ?_⟩
  obtain ⟨id, rfl⟩ := Pass.supplier_of_mem_asked (htravelled.suppliers.entities.subset (Pass.saved_subset _ _ hz))
  obtain ⟨id', rfl⟩ := Pass.part_of_mem_asked (htravelled.parts.entities.subset (Pass.saved_subset _ _ hz'))
  exact nofun

end Travelled

/-- What is stored when a tour has raised the version of an entity at rest. -/
theorem stored_of_saves (hrests : ∀ v ∈ visits, e.Rests s pass v.entity v.again.result) :
    ∀ z ∈ pass.saved visits, ∃ r, s.riskRecord? z = some r := by
  intro z hz
  obtain ⟨v, hv, rfl⟩ := List.mem_map.1 hz
  obtain ⟨hv, hsaves⟩ := List.mem_filter.1 hv
  have hrest := hrests v hv
  obtain ⟨entity, result⟩ := v
  cases result with
  | error error => cases pass <;> cases hsaves
  | ok o =>
      generalize hagain : (Visit.again ⟨entity, .ok o⟩).result = result at hrest
      cases hrest with
      | fails => cases hagain
      | settled hpass hverdict hstored hsettled => exact ⟨_, hstored⟩
      | supplier id => cases hsaves
      | suggested => cases hsaves
      | unknown => cases hagain

/-- What comes again when a pass finds at rest what it has visited. -/
theorem round_again {add : RunSummary → Tally → RunSummary} (crew : Crew)
    (hadd : ∀ summary, add summary {} = summary) (hasked : (visits.map (·.entity)).Perm (pass.asked options s))
    (hrests : ∀ v ∈ visits, e.Rests s pass v.entity v.again.result)
    (hnext : ∀ z ∈ pass.saved visits, s.HasNextVersion z) :
    ∃ visits', visits.Perm visits' ∧ ∀ summary,
      e.round crew.route (pass.wanted options) pass .endless add summary (.plain s) =
        .ok (add summary (.ofVisits pass (visits'.map Visit.again))) (.plain (s.raised (pass.saved visits'))) := by
  have hnodup := hasked.nodup_iff.2 (pass.nodup_asked options s)
  unfold Pass.asked at hasked
  cases hwanted : pass.wanted options with
  | false =>
      rw [hwanted, if_neg Bool.false_ne_true] at hasked
      obtain rfl := List.map_eq_nil_iff.1 hasked.eq_nil
      refine ⟨[], .nil, fun summary => ?_⟩
      show EStateM.Result.ok summary _ = .ok (add summary {}) _
      rw [hadd]
      rfl
  | true =>
      rw [hwanted, if_pos rfl] at hasked
      obtain ⟨visits', hperm, hentities⟩ := Visit.exists_perm (hasked.trans (crew.route_perm _).symm)
      have htour := tour_of_rests (visits'.map Visit.again)
        (by rw [Visit.map_entity_again]; exact (hperm.map _).nodup_iff.1 hnodup)
        (fun v hv => by
          obtain ⟨u, hu, rfl⟩ := List.mem_map.1 hv
          exact hrests u (hperm.mem_iff.2 hu))
        fun z hz => by
          rw [Pass.saved_again] at hz
          exact hnext z ((pass.saved_perm hperm).mem_iff.2 hz)
      rw [Visit.map_entity_again, hentities, Pass.saved_again] at htour
      have hlist : pass.list (.plain s) = .ok (pass.targets s) (.plain s) := rfl
      refine ⟨visits', hperm, fun summary => ?_⟩
      simp only [round, if_true, OnStore.bind_apply, OnStore.pure_apply, hlist, tallyOf, htour]

/-- What the passes of a run have done, they do not do again. -/
theorem rounds_again (htravelled : e.Travelled options s s₁ s₂ t j) (hone : s.OneOpen) (hfit : t.VersionsFit)
    (crew : Crew) :
    ∃ k, j.Reorders k ∧
      e.rounds crew.route options .endless (.plain t) = .ok k.again.summary (.plain (t.raised k.saved)) := by
  obtain ⟨hrests₁, hrests₂, hrests₃⟩ := htravelled.rests_again hone
  obtain ⟨hasked₁, hasked₂, hasked₃⟩ := htravelled.asked_again
  -- Raised versions change neither what is asked for nor what is at rest.
  have hagain (pass : Pass) (zs : List EntityRef) : pass.asked options (t.raised zs) = pass.asked options t := by
    refine Pass.asked_congr ?_
    rw [← Pass.targets_unversioned, Store.unversioned_raised, Pass.targets_unversioned]
  obtain ⟨suppliers, hsuppliers, hround₁⟩ := round_again crew RunSummary.addSuppliers_empty hasked₁ hrests₁
    fun z _ => hfit.hasNextVersion z
  have hsaved : (Pass.suppliers.saved suppliers ++ Pass.parts.saved j.parts).Nodup :=
    ((Pass.saved_perm .suppliers hsuppliers).append_right _).nodup_iff.1 htravelled.nodup_saved
  obtain ⟨hnodup, -, hapart⟩ := List.nodup_append.1 hsaved
  obtain ⟨parts, hparts, hround₂⟩ := round_again (s := t.raised (Pass.suppliers.saved suppliers)) crew
    RunSummary.addParts_empty (hagain .parts _ ▸ hasked₂) (fun v hv => (hrests₂ v hv).raised _)
    fun z hz => Store.hasNextVersion_raised (hfit.hasNextVersion z) hnodup fun hmem => hapart z hmem z hz rfl
  simp only [← Store.raised_append] at hround₂
  obtain ⟨suggested, hsuggested, hround₃⟩ :=
    round_again (s := t.raised (Pass.suppliers.saved suppliers ++ Pass.parts.saved parts)) crew
      RunSummary.addRecommendations_empty (hagain .recommendations _ ▸ hasked₃)
      (fun v hv => (hrests₃ v hv).raised _) fun z hz => by simp [Pass.saved_recommendations] at hz
  simp only [Pass.saved_recommendations] at hround₃
  refine ⟨⟨suppliers, parts, suggested⟩, ⟨hsuppliers, hparts, hsuggested⟩, ?_⟩
  simp only [rounds, OnStore.bind_apply, hround₁, hround₂, hround₃]
  rfl

/-- A run does what its passes and the offer of its alerts do. -/
theorem run_of_rounds {clock : Clock} {crew : Crew} {pace : Pace} (hpaced : e.Paced clock pace) (sink : Sink)
    (w : World) {passed offered : RunSummary} {g h : FaultyStore}
    (hrounds : e.rounds (e.config.parallel.engage crew).route options pace w.backend = .ok passed g)
    (hoffer : e.offer options.dispatchAlerts sink passed g = .ok offered h) :
    ∃ w', e.runTimed clock crew sink options w = .ok offered.sortErrors w' ∧ w'.backend = h := by
  have hends := run_does hpaced crew sink options w
  simp only [OnStore.bind_apply, OnStore.pure_apply, hrounds, hoffer] at hends
  exact Running.ends_eq_ok_iff.1 hends

/-- The versions that a run raises are those of its assessed targets for which it reports no failure. -/
theorem Travelled.saved_perm (htravelled : e.Travelled options s s₁ s₂ t j) {failures : List Failure}
    (hdispatch : ∀ x ∈ failures, x.operation = .alertDispatch) :
    j.saved.Perm (([Pass.suppliers, .parts].flatMap (·.asked options s)).filter (fun z =>
      !(failedFor z.assessment ((j.summary.errors ++ failures).mergeSort Failure.le)).contains z)) := by
  obtain ⟨hfailed₁, hfailed₂⟩ := failedFor_run j.suppliers j.parts j.suggested hdispatch
  rw [← j.errors_summary] at hfailed₁ hfailed₂
  have hsaved {pass : Pass} (hpass : pass ≠ .recommendations) {visits : List Visit} {asked reported : List EntityRef}
      (hentities : (visits.map (·.entity)).Perm asked) (hnodup : (visits.map (·.entity)).Nodup)
      (hreported : reported.Perm (Tally.ofVisits pass visits).failed) :
      (pass.saved visits).Perm (asked.filter fun z => !reported.contains z) := by
    rw [Tally.saved_eq_filter hpass hnodup]
    refine (hentities.filter _).trans (.of_eq (List.filter_congr fun z _ => ?_))
    rw [Bool.eq_iff_iff, Bool.not_eq_true', Bool.not_eq_true', ← Bool.not_eq_true, ← Bool.not_eq_true,
      List.contains_iff_mem, List.contains_iff_mem, hreported.mem_iff]
  rw [List.flatMap_cons, List.flatMap_cons, List.flatMap_nil, List.append_nil, List.filter_append]
  refine List.Perm.append ?_ ?_
  · refine (hsaved (by decide) htravelled.suppliers.entities htravelled.once.suppliers hfailed₁).trans
      (.of_eq (List.filter_congr fun z hz => ?_))
    obtain ⟨id, rfl⟩ := Pass.supplier_of_mem_asked hz
    rfl
  · refine (hsaved (by decide) htravelled.entities_parts htravelled.once.parts hfailed₂).trans
      (.of_eq (List.filter_congr fun z hz => ?_))
    obtain ⟨id, rfl⟩ := Pass.part_of_mem_asked hz
    rfl

/-- **A repeated run changes nothing but versions.**  Let a run without deadline succeed over a store without faults
in which no entity has two open alerts, and let the versions in the store that it leaves leave room for greater ones.
A second run over that store, with the same settings and options at the same instant, succeeds too, whoever visits the
targets of either run.

* Its passes report what those of the first run have reported, but no events and no suggestions; and so does the whole
  run, if the sink is the same.
* It leaves the same store but for the versions of risk records.
* The targets of its assessment passes for which no failure is reported have a record, whose version is one higher
  in the end; and no other record has changed. -/
theorem repeated_run_raises_versions (e : Engine) (hnone : e.config.run.timeoutSeconds = none) (clock clock' : Clock)
    (crew crew' : Crew) (sink sink' : Sink) (options : RunOptions) (s : Store) (hone : s.OneOpen) (w w₁ w₂ : World)
    (summary : RunSummary) (hbefore : w.backend = .plain s)
    (hrun : e.runTimed clock crew sink options w = .ok summary w₁) (hfit : w₁.backend.store.VersionsFit)
    (hsame : w₂.backend = w₁.backend) :
    let after := w₁.backend.store
    let assessed := ([Pass.suppliers, .parts].flatMap (·.asked options s)).filter
      (fun z => !(failedFor z.assessment summary.errors).contains z)
    ∃ summary' w₃ again, e.runTimed clock' crew' sink' options w₂ = .ok summary' w₃ ∧
      summary'.ofPasses = { summary.ofPasses with recommendationsGenerated := 0, riskEventsCreated := 0 } ∧
      (sink' = sink → summary' = { summary with recommendationsGenerated := 0, riskEventsCreated := 0 }) ∧
      w₁.backend = .plain after ∧ w₃.backend = .plain again ∧ again.unversioned = after.unversioned ∧
      (∀ z ∈ assessed, ∃ r, after.riskRecord? z = some r ∧ again.riskRecord? z = some r.next ∧
        r.next.version.toNat = r.version.toNat + 1) ∧
      ∀ z ∉ assessed, again.riskRecord? z = after.riskRecord? z := by
  intro after assessed
  obtain ⟨passed, g, offered, hrounds, hoffer, rfl⟩ := run_eq_ok (paced_endless hnone clock) hrun
  rw [hbefore] at hrounds
  obtain ⟨s₁, s₂, t, j, rfl, htravelled, rfl⟩ := travelled_of_rounds hrounds
  obtain ⟨hafter, -⟩ := offer_adds hoffer
  obtain rfl : after = t := congrArg FaultyStore.store hafter
  rw [offer_eq _ _ rfl, FaultyStore.store_plain] at hoffer
  split at hoffer
  · cases hoffer
  rename_i report hreport
  obtain rfl : j.summary.withReport report = offered := (EStateM.Result.ok.inj hoffer).1
  -- The second run finds the same alerts, whatever its sink makes of them.
  obtain ⟨report', hreport'⟩ := exists_report hreport sink'
  obtain ⟨k, hreorders, hrounds'⟩ := rounds_again htravelled hone hfit (e.config.parallel.engage crew')
  have halerts : (after.raised k.saved).alerts = after.alerts :=
    (Store.same_of_unversioned (after.unversioned_raised k.saved)).2.1
  have hoffer' : e.offer options.dispatchAlerts sink' k.again.summary (.plain (after.raised k.saved)) =
      .ok (k.again.summary.withReport report') (.plain (after.raised k.saved)) := by
    rw [offer_eq _ _ rfl, FaultyStore.store_plain, halerts, hreport']
  rw [← hafter, ← hsame] at hrounds'
  obtain ⟨w₃, hrun', hw₃⟩ := run_of_rounds (paced_endless hnone clock') sink' w₂ hrounds' hoffer'
  have hassessed : j.saved.Perm assessed := htravelled.saved_perm (operation_of_report hreport)
  have hstored (z : EntityRef) : (after.raised k.saved).riskRecord? z = (after.raised j.saved).riskRecord? z :=
    Store.riskRecord?_raised_perm htravelled.nodup_saved hreorders.saved z
  refine ⟨_, w₃, after.raised k.saved, hrun', ?_, ?_, hafter, hw₃, after.unversioned_raised k.saved,
    fun z hz => ?_, fun z hz => ?_⟩
  · rw [k.summary_again]
    have hreported := Journey.ofPasses_sortErrors hreorders htravelled.once (operation_of_report hreport)
      (operation_of_report hreport')
    exact congrArg (fun summary : RunSummary =>
      { summary with recommendationsGenerated := 0, riskEventsCreated := 0 }) hreported
  · rintro rfl
    obtain rfl : report = report' := Option.some.inj (hreport.symm.trans hreport')
    rw [k.summary_again]
    have hreported := Journey.sortErrors_withReport hreorders htravelled.once (operation_of_report hreport)
      (nodup_report (htravelled.oneOpen hone) hreport)
    exact congrArg (fun summary : RunSummary =>
      { summary with recommendationsGenerated := 0, riskEventsCreated := 0 }) hreported
  · have hsaved := hassessed.mem_iff.2 hz
    obtain ⟨hrests₁, hrests₂, -⟩ := htravelled.rests_again hone
    obtain ⟨r, hr⟩ : ∃ r, after.riskRecord? z = some r := by
      rcases List.mem_append.1 hsaved with hsaved | hsaved
      · exact stored_of_saves hrests₁ z hsaved
      · exact stored_of_saves hrests₂ z hsaved
    refine ⟨r, hr, ?_, RiskRecord.toNat_version_next (hfit.version_lt hr)⟩
    rw [hstored, Store.riskRecord?_raised htravelled.nodup_saved, if_pos hsaved, hr, Option.map_some]
  · rw [hstored, Store.riskRecord?_raised htravelled.nodup_saved, if_neg fun hmem => hz (hassessed.mem_iff.1 hmem)]

/-- The first run assesses both parts and logs an event for each.  The second one assesses them again, by two threads and
the second part first, logs nothing and leaves their records at the next version. -/
theorem second_run_logs_nothing :
    let e := standardOn Store.sampleDay
    let options : RunOptions := { partsOnly := true, generateRecommendations := true }
    let w : World := { backend := .plain twoSources }
    e.config.run.timeoutSeconds = none ∧ twoSources.OneOpen ∧
      ∃ summary w₁, e.runTimed .still .caller .accepting options w = .ok summary w₁ ∧
        summary.riskEventsCreated = 2 ∧ w₁.backend.store.VersionsFit ∧
        ∃ summary' w₃, e.runTimed .still twoThreads .accepting options w₁ = .ok summary' w₃ ∧
          summary'.partsAssessed = 2 ∧ summary'.riskEventsCreated = 0 ∧
          ∀ z ∈ [EntityRef.part ⟨10⟩, .part ⟨11⟩], (w₃.backend.store.riskRecord? z).map (·.version) = some 2 := by
  intro e options w
  have hone : twoSources.OneOpen := by decide
  obtain ⟨summary, w₁, hrun, htest⟩ := Running.exists_of_passes (e.runTimed .still .caller .accepting options) w
    (fun summary w₁ => summary.partsAssessed = 2 ∧ summary.riskEventsCreated = 2 ∧ summary.errors = [] ∧
      w₁.backend.store.VersionsFit ∧
      ∀ z ∈ [EntityRef.part ⟨10⟩, .part ⟨11⟩], (w₁.backend.store.riskRecord? z).map (·.version) = some 1)
    (by decide +kernel)
  obtain ⟨hassessed, hlogged, herrors, hfit, hversions⟩ := of_decide_eq_true htest
  obtain ⟨summary', w₃, again, hagain, -, hsummary, -, hw₃, -, hraised, -⟩ :=
    repeated_run_raises_versions e rfl .still .still .caller twoThreads .accepting .accepting options twoSources hone w
      w₁ w₁ summary rfl hrun hfit rfl
  obtain rfl := hsummary rfl
  refine ⟨rfl, hone, summary, w₁, hrun, hlogged, hfit, _, w₃, hagain, hassessed, rfl, fun z hz => ?_⟩
  have hmem : z ∈ ([Pass.suppliers, .parts].flatMap (·.asked options twoSources)).filter
      (fun z => !(failedFor z.assessment summary.errors).contains z) := by
    rw [herrors]
    revert z
    decide +kernel
  obtain ⟨r, hr, hnext, -⟩ := hraised z hmem
  have hone : r.version = 1 := by
    have hstored := hversions z hz
    rw [hr] at hstored
    exact Option.some.inj hstored
  rw [hw₃, FaultyStore.store_plain, hnext, Option.map_some, RiskRecord.version_next, hone]
  rfl

end Engine

end SupplyRisk
