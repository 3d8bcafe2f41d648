import SupplyRisk.Proofs.Engine.Running

/-!
# Runs seen from the store

Tracker and notifications go along with a run and decide nothing.  `Running.Does` says what a step does to its
store alone: a pass visits its targets in the order in which its crew comes to them (`Crew.route`, `Engine.tour`), and
what the visits came to adds up to the tally of the pass (`Tally.ofVisits`), though each thread has counted its own.
`Engine.rounds` is what the passes of a run do whose time is over at no look at the clock, or at every one (`Pace`);
`run_does` says that a run does just that, offers the alerts that are due, and sorts the failures.
-/

namespace SupplyRisk

/-- Steps on a store; what was done before a stop stays done. -/
abbrev OnStore := EStateM Halt FaultyStore

theorem OnStore.pure_apply {α : Type} (a : α) (f : FaultyStore) : (pure a : OnStore α) f = .ok a f := rfl

theorem OnStore.bind_apply {α β : Type} (p : OnStore α) (q : α → OnStore β) (f : FaultyStore) :
    (p >>= q) f =
      match p f with
      | .ok a g => q a g
      | .error cause g => .error cause g := by
  show EStateM.bind p q f = _
  unfold EStateM.bind
  cases p f <;> rfl

/-- What steps come to, if they are not stopped. -/
def OnStore.answer? {α : Type} (p : OnStore α) (f : FaultyStore) : Option α :=
  match p f with
  | .ok a _ => some a
  | .error _ _ => none

/-- The store that steps leave behind, however they end. -/
def OnStore.after {α : Type} (p : OnStore α) (f : FaultyStore) : FaultyStore :=
  match p f with
  | .ok _ g => g
  | .error _ g => g

theorem OnStore.after_of_ok {α : Type} {p : OnStore α} {f g : FaultyStore} {a : α} (hp : p f = .ok a g) :
    p.after f = g := by
  rw [after, hp]

/-! ## Steps of a run -/

namespace Running

variable {α β : Type}

/-- How a step ends, with the store that it leaves behind. -/
def ends (x : Running α) (w : World) : EStateM.Result Halt FaultyStore α :=
  match x w with
  | .ok a w' => .ok a w'.backend
  | .error cause w' => .error cause w'.backend

/-- Seen from its store the step does what `p` does, whatever the rest of the world is. -/
def Does (x : Running α) (p : OnStore α) : Prop := ∀ w, x.ends w = p w.backend

theorem ends_eq_ok_iff {x : Running α} {w : World} {a : α} {f : FaultyStore} :
    x.ends w = .ok a f ↔ ∃ w', x w = .ok a w' ∧ w'.backend = f := by
  unfold ends
  cases x w with
  | ok b w' =>
      constructor
      · intro h
        cases h
        exact ⟨w', rfl, rfl⟩
      · rintro ⟨w'', h, rfl⟩
        cases h
        rfl
  | error cause w' => simp

theorem ends_eq_error_iff {x : Running α} {w : World} {cause : Halt} {f : FaultyStore} :
    x.ends w = .error cause f ↔ ∃ w', x w = .error cause w' ∧ w'.backend = f := by
  unfold ends
  cases x w with
  | ok a w' => simp
  | error cause' w' =>
      constructor
      · intro h
        cases h
        exact ⟨w', rfl, rfl⟩
      · rintro ⟨w'', h, rfl⟩
        cases h
        rfl

theorem does_pure (a : α) : Does (pure a) (pure a) := fun _ => rfl

theorem does_bind {x : Running α} {p : OnStore α} {g : α → Running β} {q : α → OnStore β} (hx : Does x p)
    (hg : ∀ a, Does (g a) (q a)) : Does (x >>= g) (p >>= q) := by
  intro w
  have hw := hx w
  show ends (EStateM.bind x g) w = EStateM.bind p q w.backend
  unfold ends EStateM.bind
  unfold ends at hw
  rw [← hw]
  cases x w with
  | ok a w' => exact hg a w'
  | error cause w' => rfl

/-- A change of the rest of the world does nothing to the store. -/
theorem does_modify {change : World → World} (hchange : ∀ w, (change w).backend = w.backend) :
    Does (modify change : Running Unit) (pure ()) := by
  intro w
  show EStateM.Result.ok () (change w).backend = .ok () w.backend
  rw [hchange]

theorem does_within {x : Running α} {p : OnStore α} (change : Context → Context) (hx : Does x p) :
    Does (within change x) p := by
  intro w
  refine Eq.trans ?_ (hx { w with tracker := { w.tracker with context := change w.tracker.context } })
  unfold ends within
  dsimp only
  cases x { w with tracker := { w.tracker with context := change w.tracker.context } } <;> rfl

/-- Work on another thread does to the store what it does on this one. -/
theorem does_onThread_bind {x : Running α} {p : OnStore α} {g : α × Context → Running β} {q : α → OnStore β}
    (context : Context) (hx : Does x p) (hg : ∀ a c, Does (g (a, c)) (q a)) :
    Does (onThread context x >>= g) (p >>= q) := by
  intro w
  have hw := hx { w with tracker := { w.tracker with context } }
  show ends (EStateM.bind (onThread context x) g) w = EStateM.bind p q w.backend
  unfold ends EStateM.bind onThread
  unfold ends at hw
  dsimp only at hw ⊢
  rw [← hw]
  cases x { w with tracker := { w.tracker with context } } with
  | ok a w' => exact hg a _ _
  | error cause w' => rfl

theorem does_track (change : Tracker → Tracker) : Does (track change) (pure ()) :=
  does_modify fun _ => rfl

end Running

/-! ## Visits -/

/-- What visiting an entity came to. -/
structure Visit where
  entity : EntityRef
  result : Except RiskError Outcome

/-- The visit that ends with an attempt: failures are kept, and only the end of the program stops the pass. -/
def Visit.ofAttempt (entity : EntityRef) :
    Except Halt Outcome × FaultyStore → EStateM.Result Halt FaultyStore Visit
  | (.ok outcome, f) => .ok ⟨entity, .ok outcome⟩ f
  | (.error (.failure error), f) => .ok ⟨entity, .error error⟩ f
  | (.error .calendar, f) => .error .calendar f
  | (.error .word, f) => .error .word f

namespace Tally

theorem merge_assoc (a b c : Tally) : (a.merge b).merge c = a.merge (b.merge c) := by
  simp only [merge, Nat.add_assoc, List.append_assoc]

@[simp] theorem merge_empty (t : Tally) : t.merge {} = t := by
  simp only [merge, Nat.add_zero, List.append_nil]

@[simp] theorem empty_merge (t : Tally) : ({} : Tally).merge t = t := by
  simp only [merge, Nat.zero_add, List.nil_append]

/-- What one visit counts. -/
def ofVisit (pass : Pass) (v : Visit) : Tally :=
  match v.result with
  | .ok o => ({} : Tally).record o
  | .error error => ({} : Tally).fail (.ofError v.entity pass.operation error)

/-- What the visits of a pass count together. -/
def ofVisits (pass : Pass) : List Visit → Tally
  | [] => {}
  | v :: vs => (ofVisit pass v).merge (ofVisits pass vs)

theorem ofVisits_append (pass : Pass) (vs us : List Visit) :
    ofVisits pass (vs ++ us) = (ofVisits pass vs).merge (ofVisits pass us) := by
  induction vs with
  | nil => exact (empty_merge _).symm
  | cons v vs ih => rw [List.cons_append, ofVisits, ofVisits, ih, merge_assoc]

theorem merge_ofVisit_ok (t : Tally) {pass : Pass} {v : Visit} {o : Outcome} (hresult : v.result = .ok o) :
    t.merge (ofVisit pass v) = t.record o := by
  simp only [ofVisit, hresult, merge, record, Nat.zero_add, Nat.add_zero, List.append_nil]

theorem merge_ofVisit_error (t : Tally) {pass : Pass} {v : Visit} {error : RiskError}
    (hresult : v.result = .error error) :
    t.merge (ofVisit pass v) = t.fail (.ofError v.entity pass.operation error) := by
  simp only [ofVisit, hresult, merge, fail, Nat.add_zero, List.nil_append]

end Tally

/-! ## Sorted failures -/

theorem Failure.le_iff {a b : Failure} :
    a.le b = true ↔ a.entity.rank < b.entity.rank ∨
      a.entity.rank = b.entity.rank ∧ a.operation.rank ≤ b.operation.rank := by
  simp only [Failure.le, Bool.or_eq_true, Bool.and_eq_true, decide_eq_true_eq]

theorem RunSummary.pairwise_sortErrors (s : RunSummary) :
    s.sortErrors.errors.Pairwise (fun a b => a.le b = true) := by
  refine List.pairwise_mergeSort (fun a b c hab hbc => ?_) (fun a b => ?_) s.errors
  · rw [Failure.le_iff] at hab hbc ⊢
    omega
  · rw [Bool.or_eq_true, Failure.le_iff, Failure.le_iff]
    omega

/-! ## Listings -/

namespace Pass

/-- The entities of a pass over a store. -/
def targets (pass : Pass) (s : Store) : List EntityRef :=
  match pass with
  | suppliers => (s.suppliers.rows.filter (·.active)).map (fun supplier => .supplier supplier.id)
  | parts => s.parts.rows.map (fun part => .part part.id)
  | recommendations => (s.partRisks.rows.filter (·.isEligible)).map (·.entity)

/-- Whether a run is asked for a pass. -/
def wanted (options : RunOptions) : Pass → Bool
  | suppliers => !options.partsOnly
  | parts => !options.suppliersOnly
  | recommendations => options.generateRecommendations

/-- The failure of listing the entities of a pass, if listings can fail for it. -/
def unlisted? : Pass → Option RiskError
  | suppliers => some (.enumerating "suppliers" (.transient "cannot list suppliers"))
  | parts => some (.enumerating "parts" (.transient "cannot list parts"))
  | recommendations => none

/-- Lists the entities of a pass. -/
def list (pass : Pass) : OnStore (List EntityRef) := fun f =>
  match f.faults.failingListings, pass.unlisted? with
  | true, some error => .error (.failure error) f
  | _, _ => .ok (pass.targets f.store) f

end Pass

/-! ## Time and threads -/

/-- A run whose time is over at no look at the clock, or at every one. -/
inductive Pace where
  | endless
  | timeless
deriving DecidableEq

/-- Every look at the clock of a run shows the same. -/
structure Engine.Paced (e : Engine) (clock : Clock) (pace : Pace) : Prop where
  reachable : e.config.run.isReachable clock = true
  shows : ∀ pass place look, e.late clock pass place look = decide (pace = .timeless)

theorem Engine.paced_endless {e : Engine} (hnone : e.config.run.timeoutSeconds = none) (clock : Clock) :
    e.Paced clock .endless where
  reachable := by rw [RunConfig.isReachable, hnone]; rfl
  shows pass place look := by rw [late, RunConfig.isOver, hnone]; rfl

theorem Engine.paced_timeless {e : Engine} {clock : Clock} (hzero : e.config.run.timeoutSeconds = some 0)
    (hreachable : e.config.run.isReachable clock = true) : e.Paced clock .timeless where
  reachable := hreachable
  shows pass place look := by
    rw [late, RunConfig.isOver, hzero]
    exact decide_eq_true (Nat.zero_le _)

/-- The targets of a pass in the order in which the crew comes to them. -/
def Crew.route (crew : Crew) (targets : List EntityRef) : List EntityRef :=
  match crew with
  | .caller => targets
  | .pool turns => (turns targets.length).order.map fun t => targets.get t.2

/-- The caller needs no pool. -/
@[simp] theorem ParallelConfig.engage_caller (c : ParallelConfig) : c.engage .caller = .caller := ite_self _

/-- The crew comes to every target once. -/
theorem Crew.route_perm (crew : Crew) (targets : List EntityRef) : (crew.route targets).Perm targets := by
  cases crew with
  | caller => exact .refl targets
  | pool turns =>
      have heach := (turns targets.length).each.map fun place => targets.get place
      rw [List.map_map] at heach
      refine heach.trans (.of_eq ?_)
      exact List.map_get_finRange targets

namespace Engine

variable (e : Engine)

/-- The work on one entity as a pass does it: repeated as far as the policy allows, its failure kept. -/
def visitOn (pass : Pass) (entity : EntityRef) : OnStore Visit := fun f =>
  Visit.ofAttempt entity (retrying e.config.retry (e.work pass entity).run 0 0 f)

/-- The visits of a pass, one after the other. -/
def tour (pass : Pass) : List EntityRef → OnStore (List Visit)
  | [] => return []
  | entity :: rest => do
      let visit ← e.visitOn pass entity
      let visits ← tour pass rest
      return visit :: visits

/-- What a pass does with its targets, in that order. -/
def tallyOf (pass : Pass) (pace : Pace) (targets : List EntityRef) : OnStore Tally :=
  match pace with
  | .timeless => return { skipped := targets.length }
  | .endless => do
      let visits ← e.tour pass targets
      return .ofVisits pass visits

/-- A pass over its targets as they are arranged, if it is asked for. -/
def round (arrange : List EntityRef → List EntityRef) (wanted : Bool) (pass : Pass) (pace : Pace)
    (add : RunSummary → Tally → RunSummary) (summary : RunSummary) : OnStore RunSummary :=
  if wanted then do
    let targets ← pass.list
    let tally ← e.tallyOf pass pace (arrange targets)
    return add summary tally
  else return summary

/-- The passes of a run over their targets as they are arranged. -/
def rounds (arrange : List EntityRef → List EntityRef) (options : RunOptions) (pace : Pace) : OnStore RunSummary := do
  let summary ← e.round arrange (Pass.suppliers.wanted options) .suppliers pace .addSuppliers {}
  let summary ← e.round arrange (Pass.parts.wanted options) .parts pace .addParts summary
  e.round arrange (Pass.recommendations.wanted options) .recommendations pace .addRecommendations summary

/-- The notifications of the alerts that are due. -/
def due : OnStore (List Notification) := fun f =>
  match dueNotifications? f.store.alerts.rows e.now e.config.alerts.lookbackHours with
  | none => .error .calendar f
  | some notifications => .ok notifications f

/-- Offers the alerts that are due, if it is asked for. -/
def offer (wanted : Bool) (sink : Sink) (summary : RunSummary) : OnStore RunSummary :=
  if wanted then do
    let report := dispatch sink (← e.due)
    return { summary with
      alertsDispatched := report.sent
      errors := summary.errors ++ report.failed }
  else return summary

variable {e} {pass : Pass}

theorem round_skipped (e : Engine) (arrange : List EntityRef → List EntityRef) (pass : Pass) (pace : Pace)
    (add : RunSummary → Tally → RunSummary) (summary : RunSummary) :
    e.round arrange false pass pace add summary = pure summary := rfl

/-- A pass that is done was not asked for, or has added the tally of its targets. -/
theorem round_eq_ok {arrange : List EntityRef → List EntityRef} {wanted : Bool} {pace : Pace}
    {add : RunSummary → Tally → RunSummary} {summary summary' : RunSummary} {f g : FaultyStore}
    (hround : e.round arrange wanted pass pace add summary f = .ok summary' g) :
    wanted = false ∧ summary' = summary ∧ g = f ∨
      wanted = true ∧ ∃ tally, e.tallyOf pass pace (arrange (pass.targets f.store)) f = .ok tally g ∧
        summary' = add summary tally := by
  cases wanted with
  | false =>
      cases hround
      exact .inl ⟨rfl, rfl, rfl⟩
  | true =>
      simp only [round, if_true, OnStore.bind_apply, OnStore.pure_apply, Pass.list] at hround
      split at hround
      · rename_i targets f' hlist
        split at hlist
        · cases hlist
        · cases hlist
          split at hround
          · rename_i tally g' htally
            cases hround
            exact .inr ⟨rfl, tally, htally, rfl⟩
          · cases hround
      · cases hround

theorem tallyOf_eq_ok {targets : List EntityRef} {tally : Tally} {f g : FaultyStore}
    (htally : e.tallyOf pass .endless targets f = .ok tally g) :
    ∃ visits, e.tour pass targets f = .ok visits g ∧ tally = .ofVisits pass visits := by
  simp only [tallyOf, OnStore.bind_apply, OnStore.pure_apply] at htally
  split at htally
  · rename_i visits g' htour
    cases htally
    exact ⟨visits, htour, rfl⟩
  · cases htally

/-! ## What passes do -/

theorem attempt_does (e : Engine) (pass : Pass) {late : Nat → Bool}
    (hnever : ∀ repetition, late repetition = false) (entity : EntityRef) :
    (e.attempt late pass entity).Does (do return (← e.visitOn pass entity).result) := by
  obtain rfl : late = fun _ => false := funext hnever
  intro w
  rw [OnStore.bind_apply]
  simp only [Running.ends, attempt, visitOn, retrying]
  generalize retryingUntil e.config.retry (fun _ => false) (e.work pass entity).run 0 0 w.backend = ended
  obtain ⟨result, g⟩ := ended
  cases result with
  | ok outcome => rfl
  | error cause => cases cause <;> rfl

theorem entity_of_visitOn {entity : EntityRef} {f g : FaultyStore} {v : Visit}
    (hvisit : e.visitOn pass entity f = .ok v g) : v.entity = entity := by
  unfold visitOn Visit.ofAttempt at hvisit
  split at hvisit <;> cases hvisit <;> rfl

theorem tour_cons_eq_ok {entity : EntityRef} {rest : List EntityRef} {f g : FaultyStore} {visits : List Visit}
    (htour : e.tour pass (entity :: rest) f = .ok visits g) :
    ∃ v h, e.visitOn pass entity f = .ok v h ∧ ∃ vs, e.tour pass rest h = .ok vs g ∧ visits = v :: vs := by
  simp only [tour, OnStore.bind_apply, OnStore.pure_apply] at htour
  split at htour
  · rename_i v h hvisit
    split at htour
    · rename_i vs g' hrest
      cases htour
      exact ⟨v, h, hvisit, vs, hrest, rfl⟩
    · cases htour
  · cases htour

theorem after_visitOn (e : Engine) (pass : Pass) (entity : EntityRef) (f : FaultyStore) :
    (e.visitOn pass entity).after f = (retrying e.config.retry (e.work pass entity).run 0 0 f).2 := by
  unfold OnStore.after visitOn Visit.ofAttempt
  split
  · rename_i hends
    split at hends <;> cases hends <;> simp [*]
  · rename_i hends
    split at hends <;> cases hends <;> simp [*]

/-- A tour keeps what the work on each of its entities keeps. -/
theorem tour_keeps (e : Engine) (pass : Pass) {I : FaultyStore → Prop} (targets : List EntityRef) {f : FaultyStore}
    (hwork : ∀ entity ∈ targets, ∀ f, I f → I ((e.work pass entity).run f).2) (h : I f) :
    I ((e.tour pass targets).after f) := by
  induction targets generalizing f with
  | nil => exact h
  | cons entity rest ih =>
      have hvisit : I ((e.visitOn pass entity).after f) := by
        rw [after_visitOn]
        exact retryingUntil_keeps _ _ (hwork entity (by simp)) 0 0 f h
      have hrest := ih (f := (e.visitOn pass entity).after f) (fun z hz => hwork z (by simp [hz])) hvisit
      unfold OnStore.after at hvisit hrest ⊢
      simp only [tour, OnStore.bind_apply, OnStore.pure_apply]
      cases hends : e.visitOn pass entity f with
      | error cause g =>
          rw [hends] at hvisit
          exact hvisit
      | ok v g =>
          rw [hends] at hrest
          dsimp only at hrest ⊢
          cases htour : e.tour pass rest g with
          | error cause g' =>
              rw [htour] at hrest
              exact hrest
          | ok vs g' =>
              rw [htour] at hrest
              exact hrest

/-- What a visit counts. -/
def counted (e : Engine) (pass : Pass) (pace : Pace) (entity : EntityRef) : OnStore Tally :=
  match pace with
  | .timeless => return { skipped := 1 }
  | .endless => do return .ofVisit pass (← e.visitOn pass entity)

theorem visit_does (e : Engine) (pass : Pass) {late : Nat → Bool} {pace : Pace}
    (hshows : ∀ look, late look = decide (pace = .timeless)) (tally : Tally) (entity : EntityRef) :
    (e.visit late pass tally entity).Does (do return tally.merge (← e.counted pass pace entity)) := by
  unfold visit
  cases pace with
  | timeless =>
      rw [hshows 0, if_pos (decide_eq_true rfl)]
      have hskip : tally.skip = tally.merge { skipped := 1 } := by
        simp only [Tally.merge, Tally.skip, Nat.add_zero, List.append_nil]
      rw [hskip]
      exact Running.does_pure _
  | endless =>
      -- A visit is counted as it is tallied.
      have hcount (result : Except RiskError Outcome) :
          Running.Does (do
              Running.track Tracker.increment
              match result with
              | .ok outcome => return tally.record outcome
              | .error error => return tally.fail (.ofError entity pass.operation error))
            (pure (tally.merge (.ofVisit pass ⟨entity, result⟩))) := by
        cases result with
        | ok outcome =>
            rw [Tally.merge_ofVisit_ok tally rfl]
            exact Running.does_bind (Running.does_track _) fun _ => Running.does_pure _
        | error error =>
            rw [Tally.merge_ofVisit_error tally rfl]
            exact Running.does_bind (Running.does_track _) fun _ => Running.does_pure _
      have hattempt := e.attempt_does pass (fun repetition => hshows (repetition + 1)) entity
      rw [hshows 0, if_neg (by decide)]
      intro w
      refine (Running.does_within _ (Running.does_within _ (Running.does_bind hattempt hcount)) w).trans ?_
      simp only [counted, OnStore.bind_apply]
      cases hvisit : e.visitOn pass entity w.backend with
      | ok v g =>
          obtain rfl := entity_of_visitOn hvisit
          rfl
      | error cause g => rfl

/-- A tally is counted visit by visit. -/
theorem tallyOf_cons (e : Engine) (pass : Pass) (pace : Pace) (entity : EntityRef) (rest : List EntityRef) :
    e.tallyOf pass pace (entity :: rest) = (do
      let first ← e.counted pass pace entity
      return first.merge (← e.tallyOf pass pace rest)) := by
  funext f
  cases pace with
  | timeless =>
      show EStateM.Result.ok ({ skipped := rest.length + 1 } : Tally) f = .ok (Tally.merge _ _) f
      rw [Nat.add_comm]
      rfl
  | endless =>
      simp only [tallyOf, counted, tour, OnStore.bind_apply, OnStore.pure_apply]
      cases e.visitOn pass entity f with
      | error cause g => rfl
      | ok v g =>
          dsimp only
          cases e.tour pass rest g <;> rfl

/-- What is counted behind a tally is added to it. -/
theorem merge_tallyOf_cons (e : Engine) (pass : Pass) (pace : Pace) (tally : Tally) (entity : EntityRef)
    (rest : List EntityRef) :
    ((do return tally.merge (← e.counted pass pace entity)) >>= fun tally : Tally =>
        do return tally.merge (← e.tallyOf pass pace rest)) =
      do return tally.merge (← e.tallyOf pass pace (entity :: rest)) := by
  rw [tallyOf_cons]
  simp only [bind_assoc, pure_bind, Tally.merge_assoc]

theorem merge_tallyOf_nil (e : Engine) (pass : Pass) (pace : Pace) (tally : Tally) :
    (do return tally.merge (← e.tallyOf pass pace [])) = (pure tally : OnStore Tally) := by
  have hempty : e.tallyOf pass pace [] = pure {} := by cases pace <;> rfl
  rw [hempty, pure_bind, Tally.merge_empty]

section Paced

variable {clock : Clock} {pace : Pace} (hpaced : e.Paced clock pace)
include hpaced

/-- The caller visits one target after the other. -/
theorem visits_does (pass : Pass) (targets : List (EntityRef × Nat)) (tally : Tally) :
    (targets.foldlM (fun tally (target : EntityRef × Nat) =>
        e.visit (e.late clock pass target.2) pass tally target.1) tally).Does
      (do return tally.merge (← e.tallyOf pass pace (targets.map Prod.fst))) := by
  induction targets generalizing tally with
  | nil =>
      rw [List.map_nil, merge_tallyOf_nil]
      exact Running.does_pure tally
  | cons target rest ih =>
      rw [List.foldlM_cons, List.map_cons, ← merge_tallyOf_cons]
      exact Running.does_bind (visit_does e pass (hpaced.shows pass target.2) tally target.1) ih

/-- The threads of a pool visit the targets in turns, and the tallies of the visits are merged. -/
theorem turns_does {targets : List EntityRef} (turns : List (Nat × Fin targets.length))
    (soFar : Tally × (Nat → Context)) :
    (turns.foldlM (e.turn clock pass targets) soFar >>= fun ended => pure ended.1).Does
      (do return soFar.1.merge (← e.tallyOf pass pace (turns.map fun t => targets.get t.2))) := by
  induction turns generalizing soFar with
  | nil =>
      rw [List.map_nil, merge_tallyOf_nil]
      exact Running.does_pure soFar.1
  | cons t turns ih =>
      rw [List.foldlM_cons, List.map_cons, ← merge_tallyOf_cons, bind_assoc, turn, bind_assoc, bind_assoc]
      have hvisit := visit_does e pass (hpaced.shows pass t.2) {} (targets.get t.2)
      simp only [Tally.empty_merge, bind_pure] at hvisit
      refine Running.does_onThread_bind _ hvisit fun first context => ?_
      rw [pure_bind, pure_bind]
      exact ih _

/-- Whoever visits its targets, a pass does what one does that visits them in that order. -/
theorem runPass_does (crew : Crew) (targets : List EntityRef) :
    (e.runPass clock crew pass targets).Does
      (e.tallyOf pass pace ((e.config.parallel.engage crew).route targets)) := by
  have hstart (p : OnStore Tally) : p = pure () >>= fun _ => do return ({} : Tally).merge (← p) := by
    simp only [pure_bind, Tally.empty_merge, bind_pure]
  rw [hstart (e.tallyOf _ _ _), runPass]
  refine Running.does_bind (Running.does_track _) fun _ => ?_
  cases e.config.parallel.engage crew with
  | caller =>
      have hvisits := visits_does hpaced pass targets.zipIdx {}
      rwa [List.zipIdx_map_fst] at hvisits
  | pool turns => exact turns_does hpaced (turns targets.length).order ({}, fun _ => {})

end Paced

/-! ## What runs do -/

theorem targets_does (pass : Pass) : (targets pass).Does pass.list := by
  refine Running.does_within _ fun w => ?_
  obtain ⟨⟨s, faults⟩, tracker, received⟩ := w
  obtain ⟨missing, transientOnce, conflictOnce, failingListings, failingEventOnce⟩ := faults
  cases pass with
  | suppliers => cases failingListings <;> rfl
  | parts => cases failingListings <;> rfl
  | recommendations => cases failingListings <;> rfl

theorem passIf_does {clock : Clock} {pace : Pace} (hpaced : e.Paced clock pace) (crew : Crew) (wanted : Bool)
    (pass : Pass) (add : RunSummary → Tally → RunSummary) (summary : RunSummary) :
    (e.passIf clock crew wanted pass add summary).Does
      (e.round (e.config.parallel.engage crew).route wanted pass pace add summary) := by
  cases wanted with
  | false => exact Running.does_pure _
  | true =>
      refine Running.does_bind (targets_does pass) fun targets => ?_
      exact Running.does_bind (runPass_does hpaced crew targets) fun _ => Running.does_pure _

theorem dispatchDue_does (sink : Sink) :
    (e.dispatchDue sink).Does (do return dispatch sink (← e.due)) := by
  refine Running.does_within _ fun w => ?_
  have hlist (rest : List Alert → Running DispatchReport) :
      (Running.enumerate "alerts" .alerts >>= rest) w = rest w.backend.store.alerts.rows w := rfl
  simp only [Running.ends, hlist, OnStore.bind_apply, due]
  cases dueNotifications? w.backend.store.alerts.rows e.now e.config.alerts.lookbackHours <;> rfl

theorem dispatchIf_does (wanted : Bool) (sink : Sink) (summary : RunSummary) :
    (e.dispatchIf wanted sink summary).Does (e.offer wanted sink summary) := by
  cases wanted with
  | false => exact Running.does_pure _
  | true =>
      intro w
      refine (Running.does_bind (dispatchDue_does sink) (fun report => Running.does_pure _) w).trans ?_
      simp only [offer, if_true, OnStore.bind_apply]
      cases e.due w.backend <;> rfl

/-- A run does what its passes do, offers the alerts that are due, and sorts the failures. -/
theorem run_does {clock : Clock} {pace : Pace} (hpaced : e.Paced clock pace) (crew : Crew) (sink : Sink)
    (options : RunOptions) :
    (e.runTimed clock crew sink options).Does (do
      let summary ← e.rounds (e.config.parallel.engage crew).route options pace
      let summary ← e.offer options.dispatchAlerts sink summary
      return summary.sortErrors) := by
  have hrounds : e.runTimed clock crew sink options = (do
      let summary ← (do
        let summary ← e.passIf clock crew (!options.partsOnly) .suppliers .addSuppliers {}
        let summary ← e.passIf clock crew (!options.suppliersOnly) .parts .addParts summary
        e.passIf clock crew options.generateRecommendations .recommendations .addRecommendations summary)
      let summary ← e.dispatchIf options.dispatchAlerts sink summary
      return summary.sortErrors) := by
    unfold runTimed
    rw [if_pos hpaced.reachable]
    simp only [bind_assoc]
  rw [hrounds]
  refine Running.does_bind ?_ fun summary =>
    Running.does_bind (dispatchIf_does _ sink summary) fun _ => Running.does_pure _
  refine Running.does_bind (passIf_does hpaced crew _ _ _ _) fun summary => ?_
  exact Running.does_bind (passIf_does hpaced crew _ _ _ _) fun summary => passIf_does hpaced crew _ _ _ _

end Engine

end SupplyRisk
