import SupplyRisk.Proofs.Alert.Dispatch
import SupplyRisk.Proofs.Engine.Isolation

/-!
# What the summary of a run says about its store

A visit reports what it brought about, whatever faults it meets and however often its work is repeated.  Visits
leave the risk records of other entities alone, and events and suggestions only come in, so what the visits of a
pass report adds up (`tour_brought`) and still holds when the run ends (`summary_tells_truth`).
-/

namespace SupplyRisk

/-- The entities for which an operation failed. -/
def failedFor (operation : Operation) (errors : List Failure) : List EntityRef :=
  (errors.filter (fun f => f.operation = operation)).map (·.entity)

theorem failedFor_append (operation : Operation) (errors more : List Failure) :
    failedFor operation (errors ++ more) = failedFor operation errors ++ failedFor operation more := by
  rw [failedFor, List.filter_append, List.map_append, failedFor, failedFor]

theorem failedFor_perm {errors more : List Failure} (operation : Operation) (hperm : errors.Perm more) :
    (failedFor operation errors).Perm (failedFor operation more) := (hperm.filter _).map _

theorem failedFor_of_other {operation other : Operation} {errors : List Failure}
    (hall : ∀ f ∈ errors, f.operation = other) (hne : other ≠ operation) : failedFor operation errors = [] := by
  rw [failedFor, List.filter_eq_nil_iff.2 fun f hf => by simp [hall f hf, hne], List.map_nil]

namespace Tally

/-- The entities whose visits failed. -/
def failed (t : Tally) : List EntityRef := t.failures.map (·.entity)

/-- What fails has been visited. -/
theorem failed_sublist (pass : Pass) (visits : List Visit) :
    (ofVisits pass visits).failed.Sublist (visits.map (·.entity)) := by
  induction visits with
  | nil => exact .slnil
  | cons v vs ih =>
      obtain ⟨entity, result⟩ := v
      cases result with
      | ok o => exact ih.cons _
      | error error => exact ih.cons_cons _

/-- Visits to different entities are counted once each: those that failed by name, and of the others as many to be at
high risk as are. -/
theorem counts_visits (pass : Pass) {visits : List Visit} (hnodup : (visits.map (·.entity)).Nodup)
    (high : EntityRef → Bool)
    (hhigh : ∀ v ∈ visits, ∀ o, v.result = .ok o → high v.entity = o.highRisk) :
    (ofVisits pass visits).processed + (ofVisits pass visits).failed.length = visits.length ∧
      (ofVisits pass visits).highRisk =
        ((visits.map (·.entity)).filter (fun z => !(ofVisits pass visits).failed.contains z && high z)).length := by
  induction visits with
  | nil => exact ⟨rfl, rfl⟩
  | cons v vs ih =>
      obtain ⟨hfresh, hrest⟩ := List.nodup_cons.1 hnodup
      obtain ⟨hcount, hhighRisk⟩ := ih hrest fun u hu => hhigh u (by simp [hu])
      have hnew : v.entity ∉ (ofVisits pass vs).failed := fun hmem => hfresh ((failed_sublist pass vs).subset hmem)
      obtain ⟨entity, result⟩ := v
      cases result with
      | ok o =>
          -- A visit that succeeded is counted, and its entity is not among those that failed.
          have hfailed : (ofVisits pass (⟨entity, .ok o⟩ :: vs)).failed = (ofVisits pass vs).failed := rfl
          have hprocessed : (ofVisits pass (⟨entity, .ok o⟩ :: vs)).processed = 0 + 1 + (ofVisits pass vs).processed :=
            rfl
          have hcounted : (ofVisits pass (⟨entity, .ok o⟩ :: vs)).highRisk =
              0 + o.highRisk.toNat + (ofVisits pass vs).highRisk := rfl
          have hthis : high entity = o.highRisk := hhigh ⟨entity, .ok o⟩ (by simp) o rfl
          have hnotFailed : (ofVisits pass vs).failed.contains entity = false := by simpa using hnew
          rw [hfailed, hprocessed, hcounted]
          refine ⟨?_, ?_⟩
          · simp only [List.length_cons]
            omega
          · rw [List.map_cons, List.filter_cons, hnotFailed, hthis, hhighRisk]
            cases o.highRisk with
            | true => simp [Nat.add_comm]
            | false => simp
      | error error =>
          have hfailed : (ofVisits pass (⟨entity, .error error⟩ :: vs)).failed =
              entity :: (ofVisits pass vs).failed := rfl
          have hprocessed : (ofVisits pass (⟨entity, .error error⟩ :: vs)).processed =
              0 + (ofVisits pass vs).processed := rfl
          have hcounted : (ofVisits pass (⟨entity, .error error⟩ :: vs)).highRisk =
              0 + (ofVisits pass vs).highRisk := rfl
          rw [hfailed, hprocessed, hcounted]
          refine ⟨?_, ?_⟩
          · simp only [List.length_cons]
            omega
          · -- The failed entity is not among the others, so they are counted as before.
            rw [List.map_cons, List.filter_cons_of_neg (by simp), Nat.zero_add, hhighRisk]
            congr 1
            refine List.filter_congr fun z hz => ?_
            have hne : z ≠ entity := fun h => hfresh (h ▸ hz)
            simp [hne]

/-- All failures of a pass have its operation. -/
theorem operation_of_mem_failures {pass : Pass} {visits : List Visit} {f : Failure}
    (hmem : f ∈ (ofVisits pass visits).failures) : f.operation = pass.operation := by
  induction visits with
  | nil => cases hmem
  | cons v vs ih =>
      rcases List.mem_append.1 (show f ∈ (ofVisit pass v).failures ++ (ofVisits pass vs).failures from hmem) with
        hmem | hmem
      · obtain ⟨entity, result⟩ := v
        cases result with
        | ok o => cases hmem
        | error error => exact List.mem_singleton.1 hmem ▸ rfl
      · exact ih hmem

theorem failedFor_failures (operation : Operation) (pass : Pass) (visits : List Visit) :
    failedFor operation (ofVisits pass visits).failures =
      if pass.operation = operation then (ofVisits pass visits).failed else [] := by
  split
  · rename_i hsame
    rw [failedFor, List.filter_eq_self.2 fun f hf => by simp [operation_of_mem_failures hf, hsame], failed]
  · rename_i hother
    exact failedFor_of_other (fun f hf => operation_of_mem_failures hf) hother

end Tally

namespace Pass

/-- Nothing is a target twice. -/
theorem nodup_targets (pass : Pass) (s : Store) : (pass.targets s).Nodup := by
  have hranks {α : Type} [Ranked α] (r : Roster α) (keep : α → Bool) (entity : α → EntityRef)
      (hentity : ∀ a b, entity a = entity b → Ranked.rank a = Ranked.rank b) :
      ((r.rows.filter keep).map entity).Nodup := by
    refine List.pairwise_map.2 ((r.ascending.filter keep).imp fun {a b} hlt hsame => ?_)
    have := hentity a b hsame
    omega
  cases pass with
  | suppliers => exact hranks s.suppliers _ _ fun a b hsame => by cases a; cases b; cases hsame; rfl
  | parts =>
      have hall := hranks s.parts (fun _ => true) (fun part => EntityRef.part part.id)
        fun a b hsame => by cases a; cases b; cases hsame; rfl
      rwa [List.filter_eq_self.2 fun _ _ => rfl] at hall
  | recommendations => exact hranks s.partRisks _ _ fun a b hsame => by cases a; cases b; cases hsame; rfl

end Pass

/-! ## Passes -/

/-- What visits have brought about from the first store to the second one. -/
structure Brought (pass : Pass) (visits : List Visit) (s t : Store) : Prop where
  others : ∀ z, z ∉ visits.map (·.entity) → t.riskRecord? z = s.riskRecord? z
  events : ∃ logged : List RiskEvent, logged.length = (Tally.ofVisits pass visits).eventsCreated ∧
    Store.Numbered s.events logged t.events
  recommendations : ∃ added : List Recommendation, added.length = (Tally.ofVisits pass visits).recommendations ∧
    Store.Numbered s.recommendations added t.recommendations
  stored : pass ≠ .recommendations → ∀ v ∈ visits, ∀ o, v.result = .ok o →
    ∃ r, t.riskRecord? v.entity = some r ∧ r.level.isHigh = o.highRisk
  unsuggested : pass ≠ .recommendations → (Tally.ofVisits pass visits).recommendations = 0

namespace Brought

variable {pass : Pass} {s t u : Store} {visits more : List Visit}

theorem nil (pass : Pass) (s : Store) : Brought pass [] s s :=
  ⟨fun _ _ => rfl, ⟨[], rfl, .nil _⟩, ⟨[], rfl, .nil _⟩, fun _ _ => nofun, fun _ => rfl⟩

/-- Visits that do not come back to the same entities. -/
theorem append (hvisits : Brought pass visits s t) (hmore : Brought pass more t u)
    (hapart : ∀ v ∈ visits, v.entity ∉ more.map (·.entity)) : Brought pass (visits ++ more) s u where
  others z hz := by
    rw [List.map_append, List.mem_append, not_or] at hz
    exact (hmore.others z hz.2).trans (hvisits.others z hz.1)
  events := by
    obtain ⟨logged, hlogged, hevents⟩ := hvisits.events
    obtain ⟨logged', hlogged', hevents'⟩ := hmore.events
    refine ⟨logged ++ logged', ?_, hevents.append hevents'⟩
    rw [List.length_append, hlogged, hlogged', Tally.ofVisits_append]
    rfl
  recommendations := by
    obtain ⟨added, hadded, hrecommendations⟩ := hvisits.recommendations
    obtain ⟨added', hadded', hrecommendations'⟩ := hmore.recommendations
    refine ⟨added ++ added', ?_, hrecommendations.append hrecommendations'⟩
    rw [List.length_append, hadded, hadded', Tally.ofVisits_append]
    rfl
  stored hpass v hv o ho := by
    rcases List.mem_append.1 hv with hv | hv
    · obtain ⟨r, hr, hhigh⟩ := hvisits.stored hpass v hv o ho
      exact ⟨r, (hmore.others v.entity (hapart v hv)).trans hr, hhigh⟩
    · exact hmore.stored hpass v hv o ho
  unsuggested hpass := by
    have hsum := congrArg Tally.recommendations (Tally.ofVisits_append pass visits more)
    have hzero := hvisits.unsuggested hpass
    have hzero' := hmore.unsuggested hpass
    simp only [Tally.merge] at hsum
    omega

end Brought

namespace Engine

variable {e : Engine} {pass : Pass} {f g : FaultyStore}

/-- Whatever faults are met and however often the work is repeated, a visit reports what it brought about. -/
theorem visitOn_brought {entity : EntityRef} {v : Visit} (hvisit : e.visitOn pass entity f = .ok v g) :
    Brought pass [v] f.store g.store := by
  have hbrings := e.retrying_brings pass entity f
  have hmerge : Tally.ofVisits pass [v] = Tally.ofVisit pass v := Tally.merge_empty _
  unfold visitOn Visit.ofAttempt at hvisit
  generalize retrying e.config.retry (e.work pass entity).run 0 0 f = ended at hvisit hbrings
  split at hvisit
  · rename_i o g'
    cases hvisit
    obtain ⟨logged, hlogged, hevents⟩ := hbrings.events
    obtain ⟨added, hadded, hrecommendations⟩ := hbrings.recommendations nofun
    refine ⟨fun z hz => hbrings.others z (by simpa using hz), ⟨logged, ?_, hevents⟩, ⟨added, ?_, hrecommendations⟩,
      fun hpass u hu o' ho' => ?_, fun hpass => ?_⟩
    · rw [hmerge]
      exact hlogged.trans (Nat.zero_add _).symm
    · rw [hmerge]
      exact hadded.trans (Nat.zero_add _).symm
    · cases List.mem_singleton.1 hu
      cases ho'
      exact hbrings.stored _ rfl hpass
    · rw [hmerge]
      exact (Nat.zero_add _).trans (hbrings.unsuggested hpass)
  · cases hvisit
    refine ⟨fun z hz => hbrings.others z (by simpa using hz), ?_, ?_, fun hpass u hu o ho => ?_, fun _ => ?_⟩
    · rw [hmerge]
      exact hbrings.events
    · rw [hmerge]
      exact hbrings.recommendations nofun
    · cases List.mem_singleton.1 hu
      cases ho
    · rw [hmerge]
      rfl
  · cases hvisit
  · cases hvisit

theorem entities_of_tour {targets : List EntityRef} {visits : List Visit}
    (htour : e.tour pass targets f = .ok visits g) : visits.map (·.entity) = targets := by
  induction targets generalizing f visits with
  | nil =>
      cases htour
      rfl
  | cons z rest ih =>
      obtain ⟨v, h, hvisit, vs, hrest, rfl⟩ := tour_cons_eq_ok htour
      rw [List.map_cons, ih hrest, entity_of_visitOn hvisit]

/-- The visits of a tour to different entities report what they brought about. -/
theorem tour_brought {targets : List EntityRef} {visits : List Visit} (hnodup : targets.Nodup)
    (htour : e.tour pass targets f = .ok visits g) : Brought pass visits f.store g.store := by
  induction targets generalizing f visits with
  | nil =>
      cases htour
      exact .nil pass _
  | cons z rest ih =>
      obtain ⟨hfresh, hnodup⟩ := List.nodup_cons.1 hnodup
      obtain ⟨v, h, hvisit, vs, hrest, rfl⟩ := tour_cons_eq_ok htour
      refine (visitOn_brought hvisit).append (ih hnodup hrest) fun u hu => ?_
      rw [List.mem_singleton.1 hu, entity_of_visitOn hvisit, entities_of_tour hrest]
      exact hfresh

end Engine

theorem RunSummary.addSuppliers_empty (s : RunSummary) : s.addSuppliers {} = s := by
  simp only [addSuppliers, addPass, Nat.add_zero, List.append_nil]

theorem RunSummary.addParts_empty (s : RunSummary) : s.addParts {} = s := by
  simp only [addParts, addPass, Nat.add_zero, List.append_nil]

theorem RunSummary.addRecommendations_empty (s : RunSummary) : s.addRecommendations {} = s := by
  simp only [addRecommendations, addPass, Nat.add_zero, List.append_nil]

/-- The targets of a pass, if a run is asked for it. -/
def Pass.asked (options : RunOptions) (pass : Pass) (s : Store) : List EntityRef :=
  if pass.wanted options then pass.targets s else []

theorem Pass.asked_congr {options : RunOptions} {pass : Pass} {s t : Store}
    (htargets : pass.targets t = pass.targets s) :
    pass.asked options t = pass.asked options s := by
  rw [asked, asked, htargets]

theorem Pass.nodup_asked (options : RunOptions) (pass : Pass) (s : Store) : (pass.asked options s).Nodup := by
  unfold asked
  split
  · exact pass.nodup_targets s
  · exact .nil

theorem Pass.supplier_of_mem_asked {options : RunOptions} {s : Store} {z : EntityRef}
    (hmem : z ∈ Pass.suppliers.asked options s) : ∃ id, z = .supplier id := by
  unfold asked at hmem
  split at hmem
  · obtain ⟨supplier, -, rfl⟩ := List.mem_map.1 hmem
    exact ⟨supplier.id, rfl⟩
  · cases hmem

theorem Pass.part_of_mem_asked {options : RunOptions} {s : Store} {z : EntityRef}
    (hmem : z ∈ Pass.parts.asked options s) : ∃ id, z = .part id := by
  unfold asked at hmem
  split at hmem
  · obtain ⟨part, -, rfl⟩ := List.mem_map.1 hmem
    exact ⟨part.id, rfl⟩
  · cases hmem

/-- How the targets of an assessment pass are found again in the summary of a run and in the store after it. -/
structure Pass.Accounted (pass : Pass) (targets : List EntityRef) (assessed highRisk : Nat) (errors : List Failure)
    (after : Store) : Prop where
  /-- No target is visited twice. -/
  once : targets.Nodup
  /-- Failures of the pass are failures of targets, one each. -/
  failed : (failedFor pass.operation errors).Nodup ∧ failedFor pass.operation errors ⊆ targets
  /-- The other targets are counted as assessed. -/
  assessed : assessed + (failedFor pass.operation errors).length = targets.length
  /-- Of those, as many are counted at high risk as have a record that says so. -/
  highRisk : highRisk = (targets.filter (fun z => !(failedFor pass.operation errors).contains z &&
    (after.riskRecord? z).any (·.level.isHigh))).length

/-- The visits of an assessment pass are accounted for as long as later visits leave the records of its targets
alone. -/
theorem Brought.accounted {pass : Pass} {visits : List Visit} {targets : List EntityRef} {errors : List Failure}
    {s t : Store} (hbrought : Brought pass visits s t) (after : Store) (hassesses : pass ≠ .recommendations)
    (hentities : (visits.map (·.entity)).Perm targets) (hnodup : targets.Nodup)
    (hlater : ∀ z ∈ targets, after.riskRecord? z = t.riskRecord? z)
    (herrors : (failedFor pass.operation errors).Perm (Tally.ofVisits pass visits).failed) :
    pass.Accounted targets (Tally.ofVisits pass visits).processed (Tally.ofVisits pass visits).highRisk errors
      after := by
  have hsublist := Tally.failed_sublist pass visits
  have hvisited := hentities.nodup_iff.2 hnodup
  obtain ⟨hcount, hhigh⟩ := Tally.counts_visits pass hvisited
    (fun z => (after.riskRecord? z).any (·.level.isHigh)) fun v hv o ho => by
      obtain ⟨r, hr, hrisk⟩ := hbrought.stored hassesses v hv o ho
      rw [hlater v.entity (hentities.subset (List.mem_map_of_mem hv)), hr, Option.any_some, hrisk]
  refine ⟨hnodup, ⟨herrors.nodup_iff.2 (hvisited.sublist hsublist),
    fun z hz => hentities.subset (hsublist.subset (herrors.mem_iff.1 hz))⟩, ?_, ?_⟩
  · rw [herrors.length_eq, hcount, ← hentities.length_eq, List.length_map]
  · rw [hhigh, (hentities.filter _).length_eq]
    congr 1
    refine List.filter_congr fun z _ => ?_
    have hsame : (failedFor pass.operation errors).contains z = (Tally.ofVisits pass visits).failed.contains z := by
      rw [Bool.eq_iff_iff, List.contains_iff_mem, List.contains_iff_mem, herrors.mem_iff]
    rw [hsame]

namespace Engine

variable {e : Engine} {f g : FaultyStore} {summary summary' : RunSummary}

/-- A pass of a run without deadline, asked for or not, is a tour of its targets in some order. -/
theorem tour_of_round {options : RunOptions} {pass : Pass} {add : RunSummary → Tally → RunSummary} {crew : Crew}
    (hadd : add summary {} = summary)
    (hround : e.round crew.route (pass.wanted options) pass .endless add summary f = .ok summary' g) :
    ∃ targets visits, targets.Perm (pass.asked options f.store) ∧ e.tour pass targets f = .ok visits g ∧
      summary' = add summary (.ofVisits pass visits) := by
  unfold Pass.asked
  rcases round_eq_ok hround with ⟨hwanted, rfl, rfl⟩ | ⟨hwanted, tally, htally, rfl⟩
  · rw [if_neg (by simp [hwanted])]
    exact ⟨[], [], .nil, rfl, hadd.symm⟩
  · obtain ⟨visits, htour, rfl⟩ := tallyOf_eq_ok htally
    rw [if_pos hwanted]
    exact ⟨_, visits, crew.route_perm _, htour, rfl⟩

theorem mem_targets_of_asked {options : RunOptions} {pass : Pass} {s : Store} {z : EntityRef}
    (hmem : z ∈ pass.asked options s) : z ∈ pass.targets s := by
  unfold Pass.asked at hmem
  split at hmem
  · exact hmem
  · cases hmem

/-- What a pass of a run without deadline brings about, and what it leaves alone. -/
theorem round_brought {options : RunOptions} {pass : Pass} {add : RunSummary → Tally → RunSummary} {crew : Crew}
    (hadd : add summary {} = summary)
    (hround : e.round crew.route (pass.wanted options) pass .endless add summary f = .ok summary' g) :
    ∃ visits, Brought pass visits f.store g.store ∧ (visits.map (·.entity)).Perm (pass.asked options f.store) ∧
      summary' = add summary (.ofVisits pass visits) ∧ g.store.inventory = f.store.inventory ∧
      (pass = .recommendations →
        g.store.supplierRisks = f.store.supplierRisks ∧ g.store.partRisks = f.store.partRisks) := by
  obtain ⟨targets, visits, hperm, htour, rfl⟩ := tour_of_round hadd hround
  have hframe := e.tour_frame pass targets f fun _ hz => mem_targets_of_asked (hperm.subset hz)
  rw [OnStore.after_of_ok htour] at hframe
  exact ⟨visits, tour_brought (hperm.nodup_iff.2 (pass.nodup_asked options f.store)) htour,
    entities_of_tour htour ▸ hperm, rfl, hframe.1, hframe.2⟩

/-- When the time is over, a pass counts its targets as skipped and does nothing. -/
theorem round_timeless {options : RunOptions} {pass : Pass} {add : RunSummary → Tally → RunSummary} {crew : Crew}
    (hadd : add summary {} = summary)
    (hround : e.round crew.route (pass.wanted options) pass .timeless add summary f = .ok summary' g) :
    g = f ∧ summary' = add summary { skipped := (pass.asked options f.store).length } := by
  unfold Pass.asked
  rcases round_eq_ok hround with ⟨hwanted, rfl, rfl⟩ | ⟨hwanted, tally, htally, rfl⟩
  · rw [if_neg (by simp [hwanted])]
    exact ⟨rfl, hadd.symm⟩
  · cases htally
    rw [if_pos hwanted, (crew.route_perm _).length_eq]
    exact ⟨rfl, rfl⟩

/-- What is not accepted fails for its entity, as a failure of the dispatch. -/
theorem operation_of_dispatch (sink : Sink) (notifications : List Notification) :
    ∀ x ∈ (dispatch sink notifications).failed, x.operation = .alertDispatch := by
  intro x hx
  rw [dispatch, run_dispatchTo] at hx
  obtain ⟨⟨n, answer⟩, -, hanswer⟩ := List.mem_filterMap.1 hx
  obtain ⟨error, -, rfl⟩ := Option.map_eq_some_iff.1 hanswer
  rfl

/-- The dispatch of a run adds its own failures and leaves the store alone. -/
theorem offer_adds {wanted : Bool} {sink : Sink} (hoffer : e.offer wanted sink summary f = .ok summary' g) :
    g = f ∧ ∃ sent failures, summary' =
        { summary with alertsDispatched := sent, errors := summary.errors ++ failures } ∧
      (∀ x ∈ failures, x.operation = .alertDispatch) ∧
      (wanted = false → sent = summary.alertsDispatched ∧ failures = []) := by
  cases wanted with
  | false =>
      cases hoffer
      exact ⟨rfl, summary.alertsDispatched, [], by rw [List.append_nil], fun x hx => (by cases hx),
        fun _ => ⟨rfl, rfl⟩⟩
  | true =>
      simp only [offer, if_true, OnStore.bind_apply, OnStore.pure_apply, due] at hoffer
      cases hdue : dueNotifications? f.store.alerts.rows e.now e.config.alerts.lookbackHours with
      | none =>
          rw [hdue] at hoffer
          cases hoffer
      | some notifications =>
          rw [hdue] at hoffer
          cases hoffer
          exact ⟨rfl, _, _, rfl, operation_of_dispatch sink notifications, fun h => by cases h⟩

/-- The passes of a run that have succeeded. -/
theorem rounds_eq_ok {arrange : List EntityRef → List EntityRef} {options : RunOptions} {pace : Pace}
    (hrounds : e.rounds arrange options pace f = .ok summary g) :
    ∃ s₁ f₁ s₂ f₂,
      e.round arrange (Pass.suppliers.wanted options) .suppliers pace .addSuppliers {} f = .ok s₁ f₁ ∧
      e.round arrange (Pass.parts.wanted options) .parts pace .addParts s₁ f₁ = .ok s₂ f₂ ∧
      e.round arrange (Pass.recommendations.wanted options) .recommendations pace .addRecommendations s₂ f₂ =
        .ok summary g := by
  simp only [rounds, OnStore.bind_apply] at hrounds
  cases hsuppliers : e.round arrange (Pass.suppliers.wanted options) .suppliers pace .addSuppliers {} f with
  | error cause h =>
      rw [hsuppliers] at hrounds
      cases hrounds
  | ok s₁ f₁ =>
      rw [hsuppliers] at hrounds
      dsimp only at hrounds
      cases hparts : e.round arrange (Pass.parts.wanted options) .parts pace .addParts s₁ f₁ with
      | error cause h =>
          rw [hparts] at hrounds
          cases hrounds
      | ok s₂ f₂ =>
          rw [hparts] at hrounds
          exact ⟨s₁, f₁, s₂, f₂, rfl, hparts, hrounds⟩

/-- The steps of a run that has succeeded. -/
theorem run_eq_ok {options : RunOptions} {sink : Sink} {clock : Clock} {crew : Crew} {pace : Pace} {w w₁ : World}
    (hpaced : e.Paced clock pace) (hrun : e.runTimed clock crew sink options w = .ok summary w₁) :
    ∃ passed g offered, e.rounds (e.config.parallel.engage crew).route options pace w.backend = .ok passed g ∧
      e.offer options.dispatchAlerts sink passed g = .ok offered w₁.backend ∧ summary = offered.sortErrors := by
  have hends := run_does hpaced crew sink options w
  rw [Running.ends_eq_ok_iff.2 ⟨w₁, hrun, rfl⟩] at hends
  simp only [OnStore.bind_apply, OnStore.pure_apply] at hends
  cases hrounds : e.rounds (e.config.parallel.engage crew).route options pace w.backend with
  | error cause h =>
      rw [hrounds] at hends
      cases hends
  | ok passed g =>
      rw [hrounds] at hends
      dsimp only at hends
      cases hoffer : e.offer options.dispatchAlerts sink passed g with
      | error cause h =>
          rw [hoffer] at hends
          cases hends
      | ok offered h =>
          rw [hoffer] at hends
          cases hends
          exact ⟨passed, g, offered, rfl, hoffer, rfl⟩

/-- A run can only succeed if the clock can count up to the end of its time. -/
theorem isReachable_of_run {options : RunOptions} {sink : Sink} {clock : Clock} {crew : Crew} {w w₁ : World}
    (hrun : e.runTimed clock crew sink options w = .ok summary w₁) : e.config.run.isReachable clock = true := by
  unfold runTimed at hrun
  split at hrun
  · assumption
  · cases hrun

/-- The visits of a run without deadline that has succeeded, with the stores that are left between its passes. -/
theorem run_brought {options : RunOptions} {sink : Sink} {clock : Clock} {crew : Crew} {w w₁ : World}
    (hnone : e.config.run.timeoutSeconds = none) (hrun : e.runTimed clock crew sink options w = .ok summary w₁) :
    let before := w.backend.store
    let after := w₁.backend.store
    ∃ suppliers parts suggested s t,
      (Brought .suppliers suppliers before s ∧ (suppliers.map (·.entity)).Perm (Pass.suppliers.asked options before)) ∧
      (Brought .parts parts s t ∧ (parts.map (·.entity)).Perm (Pass.parts.asked options before)) ∧
      (Brought .recommendations suggested t after ∧ ∀ z, after.riskRecord? z = t.riskRecord? z) ∧
      ∃ sent failures, summary =
          { ((({} : RunSummary).addSuppliers (.ofVisits .suppliers suppliers)).addParts
              (.ofVisits .parts parts)).addRecommendations (.ofVisits .recommendations suggested) with
            alertsDispatched := sent
            errors := ((Tally.ofVisits .suppliers suppliers).failures ++ (Tally.ofVisits .parts parts).failures ++
              (Tally.ofVisits .recommendations suggested).failures ++ failures).mergeSort Failure.le } ∧
        ∀ x ∈ failures, x.operation = .alertDispatch := by
  intro before after
  obtain ⟨s₃, f₃, s₄, hrounds, hoffer, rfl⟩ := run_eq_ok (paced_endless hnone clock) hrun
  obtain ⟨s₁, f₁, s₂, f₂, hsuppliers, hparts, hrecommendations⟩ := rounds_eq_ok hrounds
  obtain ⟨hbackend, sent, failures, rfl, hdispatch, -⟩ := offer_adds hoffer
  rw [← hbackend] at hrecommendations
  obtain ⟨suppliers, hbrought₁, hentities₁, rfl, hinventory₁, -⟩ :=
    round_brought (RunSummary.addSuppliers_empty _) hsuppliers
  obtain ⟨parts, hbrought₂, hentities₂, rfl, -, -⟩ := round_brought (RunSummary.addParts_empty _) hparts
  obtain ⟨suggested, hbrought₃, -, rfl, -, hrisks₃⟩ :=
    round_brought (RunSummary.addRecommendations_empty _) hrecommendations
  have hkeeps (z : EntityRef) : after.riskRecord? z = f₂.store.riskRecord? z := by
    obtain ⟨hsupplierRisks, hpartRisks⟩ := hrisks₃ rfl
    exact Store.riskRecord?_congr hsupplierRisks hpartRisks z
  -- Assessing suppliers has not changed which parts are listed.
  have hlisted : Pass.parts.asked options f₁.store = Pass.parts.asked options before :=
    Pass.asked_congr (Pass.targets_congr hinventory₁ nofun)
  exact ⟨suppliers, parts, suggested, f₁.store, f₂.store, ⟨hbrought₁, hentities₁⟩,
    ⟨hbrought₂, hlisted ▸ hentities₂⟩, ⟨hbrought₃, hkeeps⟩, sent, failures, rfl, hdispatch⟩

/-- Up to their order, the failures of an assessment pass are among those of a run the ones of its operation. -/
theorem failedFor_run (suppliers parts suggested : List Visit) {failures : List Failure}
    (hdispatch : ∀ x ∈ failures, x.operation = .alertDispatch) :
    let errors := (Tally.ofVisits .suppliers suppliers).failures ++ (Tally.ofVisits .parts parts).failures ++
      (Tally.ofVisits .recommendations suggested).failures ++ failures
    (failedFor .supplierAssessment (errors.mergeSort Failure.le)).Perm (Tally.ofVisits .suppliers suppliers).failed ∧
      (failedFor .partAssessment (errors.mergeSort Failure.le)).Perm (Tally.ofVisits .parts parts).failed := by
  intro errors
  have hsorted (operation : Operation) :
      (failedFor operation (errors.mergeSort Failure.le)).Perm (failedFor operation errors) :=
    failedFor_perm operation (List.mergeSort_perm _ Failure.le)
  refine ⟨(hsorted _).trans (.of_eq ?_), (hsorted _).trans (.of_eq ?_)⟩
  · simp [errors, failedFor_append, Tally.failedFor_failures, failedFor_of_other hdispatch, Pass.operation]
  · simp [errors, failedFor_append, Tally.failedFor_failures, failedFor_of_other hdispatch, Pass.operation]

/-- A run that has no time at all skips its targets and leaves the store as it was. -/
theorem run_timeless {options : RunOptions} {sink : Sink} {clock : Clock} {crew : Crew} {w w₁ : World}
    (htimeout : e.config.run.timeoutSeconds = some 0) (hrun : e.runTimed clock crew sink options w = .ok summary w₁) :
    w₁.backend = w.backend ∧
      ∃ sent failures, summary =
          { skippedByTimeout :=
              ([Pass.suppliers, .parts, .recommendations].flatMap (·.asked options w.backend.store)).length
            alertsDispatched := sent
            errors := failures } ∧
        (∀ x ∈ failures, x.operation = .alertDispatch) ∧
        (options.dispatchAlerts = false → sent = 0 ∧ failures = []) := by
  have hpaced := paced_timeless htimeout (isReachable_of_run hrun)
  obtain ⟨s₃, f₃, s₄, hrounds, hoffer, rfl⟩ := run_eq_ok hpaced hrun
  obtain ⟨s₁, f₁, s₂, f₂, hsuppliers, hparts, hrecommendations⟩ := rounds_eq_ok hrounds
  obtain ⟨hkept, sent, failures, rfl, hdispatch, hoff⟩ := offer_adds hoffer
  rw [← hkept] at hrecommendations
  obtain ⟨rfl, rfl⟩ := round_timeless (RunSummary.addSuppliers_empty _) hsuppliers
  obtain ⟨rfl, rfl⟩ := round_timeless (RunSummary.addParts_empty _) hparts
  obtain ⟨hbackend, rfl⟩ := round_timeless (RunSummary.addRecommendations_empty _) hrecommendations
  refine ⟨hbackend, sent, failures.mergeSort Failure.le, ?_,
    fun x hx => hdispatch x ((List.mergeSort_perm _ _).mem_iff.1 hx), fun hnone => ?_⟩
  · have hskipped : ([Pass.suppliers, .parts, .recommendations].flatMap (·.asked options w.backend.store)).length =
        0 + (Pass.suppliers.asked options w.backend.store).length + (Pass.parts.asked options w.backend.store).length +
          (Pass.recommendations.asked options w.backend.store).length := by
      simp only [List.flatMap_cons, List.flatMap_nil, List.append_nil, List.length_append, Nat.zero_add,
        Nat.add_assoc]
    rw [hskipped]
    rfl
  · obtain ⟨hsent, rfl⟩ := hoff hnone
    exact ⟨hsent, List.mergeSort_nil⟩

/-- **The summary tells the truth about the store.**  Let a run succeed over any store and faults, with any options
and retry policy, whoever visits the targets.

* Without deadline, the targets of both assessment passes are accounted for; events and suggestions have come in
  under next numbers behind those that were there, as many as are counted; and the failures are sorted.
* With no time at all, the store is as it was, all targets of the passes that are asked for are counted as skipped,
  and nothing else is counted but by the dispatch. -/
theorem summary_tells_truth (e : Engine) (clock : Clock) (crew : Crew) (sink : Sink) (options : RunOptions)
    (w w₁ : World) (summary : RunSummary) (hrun : e.runTimed clock crew sink options w = .ok summary w₁) :
    let before := w.backend.store
    let after := w₁.backend.store
    (e.config.run.timeoutSeconds = none →
      Pass.suppliers.Accounted (Pass.suppliers.asked options before) summary.suppliersAssessed
        summary.suppliersHighRisk summary.errors after ∧
      Pass.parts.Accounted (Pass.parts.asked options before) summary.partsAssessed summary.partsHighRisk
        summary.errors after ∧
      (∃ logged : List RiskEvent, logged.length = summary.riskEventsCreated ∧
        Store.Numbered before.events logged after.events ∧ after.events.rows = before.events.rows ++ logged) ∧
      (∃ added : List Recommendation, added.length = summary.recommendationsGenerated ∧
        Store.Numbered before.recommendations added after.recommendations ∧
        after.recommendations.rows = before.recommendations.rows ++ added) ∧
      summary.errors.Pairwise (fun a b => a.le b = true)) ∧
    (e.config.run.timeoutSeconds = some 0 →
      w₁.backend = w.backend ∧
      ∃ sent failures, summary =
          { skippedByTimeout := ([Pass.suppliers, .parts, .recommendations].flatMap (·.asked options before)).length
            alertsDispatched := sent
            errors := failures } ∧
        (∀ x ∈ failures, x.operation = .alertDispatch) ∧
        (options.dispatchAlerts = false → sent = 0 ∧ failures = [])) := by
  intro before after
  refine ⟨fun hnone => ?_, fun htimeout => run_timeless htimeout hrun⟩
  · obtain ⟨suppliers, parts, suggested, s, t, ⟨hbrought₁, hentities₁⟩, ⟨hbrought₂, hentities₂⟩, ⟨hbrought₃, hkeeps⟩,
      sent, failures, rfl, hdispatch⟩ := run_brought hnone hrun
    obtain ⟨hfailed₁, hfailed₂⟩ := failedFor_run suppliers parts suggested hdispatch
    refine ⟨?_, ?_, ?_, ?_, RunSummary.pairwise_sortErrors { errors := _ }⟩
    · have haccounted := hbrought₁.accounted after (by decide) hentities₁ (Pass.nodup_asked ..) (fun z hz => ?_)
        hfailed₁
      · rwa [← Nat.zero_add (Tally.ofVisits _ _).processed, ← Nat.zero_add (Tally.ofVisits _ _).highRisk] at haccounted
      · -- Parts have records of their own.
        refine (hkeeps z).trans (hbrought₂.others z fun hmem => ?_)
        obtain ⟨supplier, rfl⟩ := Pass.supplier_of_mem_asked hz
        obtain ⟨part, hpart⟩ := Pass.part_of_mem_asked (hentities₂.subset hmem)
        cases hpart
    · have haccounted := hbrought₂.accounted after (by decide) hentities₂ (Pass.nodup_asked ..) (fun z _ => hkeeps z)
        hfailed₂
      rwa [← Nat.zero_add (Tally.ofVisits _ _).processed, ← Nat.zero_add (Tally.ofVisits _ _).highRisk] at haccounted
    · obtain ⟨logged₁, hlogged₁, hevents₁⟩ := hbrought₁.events
      obtain ⟨logged₂, hlogged₂, hevents₂⟩ := hbrought₂.events
      obtain ⟨logged₃, hlogged₃, hevents₃⟩ := hbrought₃.events
      have hevents := (hevents₁.append hevents₂).append hevents₃
      refine ⟨_, ?_, hevents, hevents.rows⟩
      show _ = 0 + _ + _ + _
      rw [List.length_append, List.length_append, hlogged₁, hlogged₂, hlogged₃, Nat.zero_add]
    · obtain ⟨added₁, hadded₁, hadds₁⟩ := hbrought₁.recommendations
      obtain ⟨added₂, hadded₂, hadds₂⟩ := hbrought₂.recommendations
      obtain ⟨added₃, hadded₃, hadds₃⟩ := hbrought₃.recommendations
      have hadds := (hadds₁.append hadds₂).append hadds₃
      refine ⟨_, ?_, hadds, hadds.rows⟩
      -- Assessments suggest nothing.
      rw [hbrought₁.unsuggested (by decide)] at hadded₁
      rw [hbrought₂.unsuggested (by decide)] at hadded₂
      show _ = 0 + _
      rw [List.length_append, List.length_append, hadded₁, hadded₂, hadded₃]
/-- The standard settings, but for a run that has no time at all. -/
def hurriedEngine : Engine :=
  ⟨{ run := { timeoutSeconds := some 0 } }, {}, .midnight Store.sampleDay⟩

/-- Two threads, of which the second one begins with the last target. -/
def twoThreads : Crew := .pool fun count =>
  ⟨((List.finRange count).reverse.map fun place => (place.val % 2, place)), by
    rw [List.map_map]
    exact (List.map_id _).symm ▸ List.reverse_perm _⟩

/-- Of two parts one cannot be read, and the event of the other one fails to be logged at first.  It is logged by
the attempt that follows, and counted once, whoever visits which part.  In a hurry, both parts are skipped. -/
theorem retried_event_is_counted_once :
    let options : RunOptions := { partsOnly := true, generateRecommendations := true }
    let w : World := { backend := ⟨twoParts, { missing := .ofList [.part ⟨11⟩], failingEventOnce := true }⟩ }
    (patientEngine.config.run.timeoutSeconds = none ∧
      ∃ summary w₁, patientEngine.runTimed .still twoThreads .accepting options w = .ok summary w₁ ∧
        summary.partsAssessed = 1 ∧ (failedFor .partAssessment summary.errors).length = 1 ∧
        w₁.backend.store.events.rows.length = 1) ∧
    hurriedEngine.config.run.timeoutSeconds = some 0 ∧
      ∃ summary w₁, hurriedEngine.runTimed .still twoThreads .accepting options w = .ok summary w₁ ∧
        summary.skippedByTimeout = 2 := by
  intro options w
  refine ⟨⟨rfl, ?_⟩, rfl, ?_⟩
  · obtain ⟨summary, w₁, hok, htest⟩ := Running.exists_of_passes
      (patientEngine.runTimed .still twoThreads .accepting options) w
      (fun summary _ => summary.partsAssessed = 1 ∧ summary.riskEventsCreated = 1) (by decide +kernel)
    obtain ⟨hassessed, hcreated⟩ := of_decide_eq_true htest
    obtain ⟨-, hparts, ⟨logged, hlength, -, hrows⟩, -⟩ :=
      (summary_tells_truth patientEngine .still twoThreads .accepting options w w₁ summary hok).1 rfl
    have htargets : (Pass.parts.asked options w.backend.store).length = 2 := by decide +kernel
    have hcounted : 1 + (failedFor .partAssessment summary.errors).length = 2 :=
      hassessed ▸ htargets ▸ hparts.assessed
    refine ⟨summary, w₁, hok, hassessed, by omega, ?_⟩
    have hempty : w.backend.store.events.rows = [] := rfl
    rw [hrows, hempty, List.nil_append, hlength, hcreated]
  · obtain ⟨summary, w₁, hok, -⟩ := Running.exists_of_passes
      (hurriedEngine.runTimed .still twoThreads .accepting options) w (fun _ _ => true) (by decide +kernel)
    obtain ⟨-, sent, failures, hsummary, -⟩ :=
      (summary_tells_truth hurriedEngine .still twoThreads .accepting options w w₁ summary hok).2 rfl
    have hskipped : ([Pass.suppliers, .parts, .recommendations].flatMap
        (·.asked options w.backend.store)).length = 2 := by decide +kernel
    refine ⟨summary, w₁, hok, ?_⟩
    rw [hsummary]
    exact hskipped

end Engine

end SupplyRisk
