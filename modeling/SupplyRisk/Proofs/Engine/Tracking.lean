import Mathlib.Data.List.FinRange
import SupplyRisk.Proofs.Engine.Isolation
import SupplyRisk.Proofs.Engine.Nesting

/-!
# What a run leaves of the tracker

A visit is counted unless the time is over for it (`Running.Visits`).  So a pass ends with its targets counted but for
those that it has skipped (`Engine.runPass_ends`), however the time runs and whoever visits.  A run is a chain of
passes (`Engine.Executed`) with quiet steps around them, so the counters are those of its last pass; and since it nests
its scopes, it brings the context back (`Engine.context_and_progress`).
-/

namespace SupplyRisk

namespace Running

variable {α β : Type} {visited late : Nat} {skipped : α → Nat}

/-- From a world, so many targets have been visited and counted, and their answer has so many as skipped, unless the
program has ended. -/
def VisitsEnd (visited late : Nat) (skipped : α → Nat) (w : World) : EStateM.Result Halt World α → Prop
  | .ok a v =>
      v.tracker.processed = w.tracker.processed + UInt64.ofNat visited ∧ v.tracker.total = w.tracker.total ∧
        skipped a = late
  | .error cause _ => cause.Ends

/-- The step visits so many targets, wherever it starts. -/
def Visits (visited late : Nat) (skipped : α → Nat) (x : Running α) : Prop :=
  ∀ w, VisitsEnd visited late skipped w (x w)

theorem visits_pure (a : α) : Visits 0 (skipped a) skipped (pure a) := fun w =>
  ⟨(UInt64.add_zero w.tracker.processed).symm, rfl, rfl⟩

/-- A scope has no counters of its own. -/
theorem visits_within {x : Running α} (change : Context → Context) (hx : Visits visited late skipped x) :
    Visits visited late skipped (within change x) := by
  intro w
  have hw := hx { w with tracker := { w.tracker with context := change w.tracker.context } }
  unfold within
  dsimp only
  generalize x { w with tracker := { w.tracker with context := change w.tracker.context } } = ended at hw ⊢
  cases ended with
  | ok a v => exact hw
  | error cause v => exact hw

/-- Neither has a thread. -/
theorem visits_onThread {x : Running α} (context : Context) (hx : Visits visited late skipped x) :
    Visits visited late (fun ended => skipped ended.1) (onThread context x) := by
  intro w
  have hw := hx { w with tracker := { w.tracker with context } }
  unfold onThread
  dsimp only
  generalize x { w with tracker := { w.tracker with context } } = ended at hw ⊢
  cases ended with
  | ok a v => exact hw
  | error cause v => exact hw

/-- An answer that is worked out from that of the visits. -/
theorem visits_map {x : Running α} (hx : Visits visited late skipped x) (g : α → β) {late' : Nat} {skipped' : β → Nat}
    (hg : ∀ a, skipped a = late → skipped' (g a) = late') :
    Visits visited late' skipped' (x >>= fun a => pure (g a)) := by
  intro w
  have hw := hx w
  rw [bind_apply]
  generalize x w = ended at hw ⊢
  cases ended with
  | ok a v => exact ⟨hw.1, hw.2.1, hg a hw.2.2⟩
  | error cause v => exact hw

/-- Targets that come one after the other, of which those are visited that the time is not over for. -/
theorem visits_foldlM {g : α → β → Running α} {isLate : β → Bool}
    (hg : ∀ a b, Visits (if isLate b then 0 else 1) (skipped a + if isLate b then 1 else 0) skipped (g a b))
    (bs : List β) (a : α) :
    Visits (bs.countP fun b => !isLate b) (skipped a + bs.countP isLate) skipped (bs.foldlM g a) := by
  induction bs generalizing a with
  | nil => exact visits_pure a
  | cons b bs ih =>
      intro w
      have hfirst := hg a b w
      rw [List.foldlM_cons, bind_apply]
      cases hrun : g a b w with
      | error cause v =>
          rw [hrun] at hfirst
          exact hfirst
      | ok a' u =>
          rw [hrun] at hfirst
          obtain ⟨hprocessed, htotal, hskipped⟩ := hfirst
          have hrest := ih a' u
          dsimp only
          cases hends : bs.foldlM g a' u with
          | error cause v =>
              rw [hends] at hrest
              exact hrest
          | ok a'' v =>
              rw [hends] at hrest
              obtain ⟨hprocessed', htotal', hskipped'⟩ := hrest
              refine ⟨?_, htotal'.trans htotal, ?_⟩
              · rw [hprocessed', hprocessed, UInt64.add_assoc, ← UInt64.ofNat_add, List.countP_cons]
                cases isLate b <;> simp [Nat.add_comm]
              · rw [hskipped', hskipped, List.countP_cons]
                omega

/-- The same for targets that come in whatever order, if the time for each depends on its place. -/
theorem visits_places {g : α → β → Running α} {place : β → Nat} {bs : List β} {count : Nat} (isLate : Nat → Bool)
    (hplaces : (bs.map place).Perm (List.range count))
    (hg : ∀ a b, Visits (if isLate (place b) then 0 else 1) (skipped a + if isLate (place b) then 1 else 0) skipped
      (g a b)) (a : α) :
    Visits ((List.range count).countP fun n => !isLate n) (skipped a + (List.range count).countP isLate) skipped
      (bs.foldlM g a) := by
  rw [← hplaces.countP_eq, ← hplaces.countP_eq, List.countP_map, List.countP_map]
  exact visits_foldlM hg bs a

end Running

namespace Engine

variable {e : Engine} {clock : Clock} {crew : Crew} {w v : World}

/-- A visit is counted, whatever comes of it, unless the time is over for it. -/
theorem visits_visit (late : Nat → Bool) (pass : Pass) (tally : Tally) (entity : EntityRef) :
    Running.Visits (if late 0 then 0 else 1) (tally.skipped + if late 0 then 1 else 0) Tally.skipped
      (e.visit late pass tally entity) := by
  unfold visit
  split
  · exact Running.visits_pure tally.skip
  · refine Running.visits_within _ (Running.visits_within _ fun w => ?_)
    rw [Running.bind_apply]
    rcases e.attempt_ends (fun repetition => late (repetition + 1)) pass entity w with
      ⟨outcome, backend, hattempt⟩ | ⟨cause, backend, hends, hattempt⟩
    · rw [hattempt]
      cases outcome with
      | ok outcome => exact ⟨rfl, rfl, rfl⟩
      | error error => exact ⟨rfl, rfl, rfl⟩
    · rw [hattempt]
      exact hends

theorem visits_turn (clock : Clock) (pass : Pass) (targets : List EntityRef) (soFar : Tally × (Nat → Context))
    (t : Nat × Fin targets.length) :
    Running.Visits (if e.late clock pass t.2 0 then 0 else 1)
      (soFar.1.skipped + if e.late clock pass t.2 0 then 1 else 0) (fun s => s.1.skipped)
      (e.turn clock pass targets soFar t) := by
  refine Running.visits_map (Running.visits_onThread (soFar.2 t.1)
    (e.visits_visit (e.late clock pass t.2) pass {} (targets.get t.2))) _ fun ended hskipped => ?_
  have hended : ended.1.skipped = 0 + _ := hskipped
  show soFar.1.skipped + ended.1.skipped = _
  rw [hended, Nat.zero_add]

/-- How many of the targets of a pass the time is over for. -/
def lateTargets (e : Engine) (clock : Clock) (pass : Pass) (count : Nat) : Nat :=
  (List.range count).countP fun place => e.late clock pass place 0

theorem lateTargets_add (clock : Clock) (pass : Pass) (count : Nat) :
    e.lateTargets clock pass count +
      ((List.range count).countP fun place => !e.late clock pass place 0) = count := by
  have hall := List.length_eq_countP_add_countP (l := List.range count)
    (fun place => e.late clock pass place 0)
  simp only [List.length_range, decide_not, Bool.decide_eq_true] at hall
  exact hall.symm

/-- Whoever visits the targets of a pass, all are visited that the time is not over for. -/
theorem visits_crew (clock : Clock) (crew : Crew) (pass : Pass) (targets : List EntityRef) :
    ∃ visits : Running Tally,
      Running.Visits ((List.range targets.length).countP fun place => !e.late clock pass place 0)
        (e.lateTargets clock pass targets.length) Tally.skipped visits ∧
      e.runPass clock crew pass targets =
        Running.track (·.setProgress 0 (UInt64.ofNat targets.length)) >>= fun _ => visits := by
  let isLate (place : Nat) : Bool := e.late clock pass place 0
  unfold runPass
  cases e.config.parallel.engage crew with
  | caller =>
      refine ⟨_, ?_, rfl⟩
      have hplaces : (targets.zipIdx.map Prod.snd).Perm (List.range targets.length) := by
        rw [List.zipIdx_map_snd, List.range_eq_range']
      have hvisits := Running.visits_places isLate hplaces (fun tally target =>
        e.visits_visit (e.late clock pass target.2) pass tally target.1) {}
      rwa [Nat.zero_add] at hvisits
  | pool turns =>
      refine ⟨_, ?_, rfl⟩
      have hplaces : ((turns targets.length).order.map fun t => t.2.val).Perm (List.range targets.length) := by
        rw [← List.map_coe_finRange_eq_range]
        have heach := (turns targets.length).each.map Fin.val
        rwa [List.map_map] at heach
      have hvisits := Running.visits_places isLate hplaces (e.visits_turn clock pass targets) ({}, fun _ => {})
      rw [Nat.zero_add] at hvisits
      exact Running.visits_map hvisits _ fun _ hskipped => hskipped

/-- The counters at the end of a pass over so many targets: all are counted but for those that it has skipped, which are
those that the time is over for. -/
structure PassShown (e : Engine) (clock : Clock) (pass : Pass) (count skipped : Nat) (t : Tracker) : Prop where
  skipped_eq : skipped = e.lateTargets clock pass count
  processed : t.processed = UInt64.ofNat (count - skipped)
  total : t.total = UInt64.ofNat count

theorem runPass_ends (clock : Clock) (crew : Crew) (pass : Pass) (targets : List EntityRef) (w : World) :
    (∃ tally v, e.runPass clock crew pass targets w = .ok tally v ∧
        e.PassShown clock pass targets.length tally.skipped v.tracker) ∨
      ∃ cause v, cause.Ends ∧ e.runPass clock crew pass targets w = .error cause v := by
  obtain ⟨visits, hvisits, hpass⟩ := e.visits_crew clock crew pass targets
  have hends := hvisits { w with tracker := w.tracker.setProgress 0 (UInt64.ofNat targets.length) }
  have hstart : e.runPass clock crew pass targets w =
      visits { w with tracker := w.tracker.setProgress 0 (UInt64.ofNat targets.length) } := by
    rw [hpass]
    rfl
  rw [hstart]
  generalize visits { w with tracker := w.tracker.setProgress 0 (UInt64.ofNat targets.length) } = ended at hends ⊢
  cases ended with
  | ok tally v =>
      obtain ⟨hprocessed, htotal, hskipped⟩ := hends
      refine .inl ⟨tally, v, rfl, hskipped, ?_, htotal⟩
      have hintime := e.lateTargets_add clock pass targets.length
      rw [hprocessed, hskipped, ← Nat.eq_sub_of_add_eq' hintime]
      exact UInt64.zero_add _
  | error cause v => exact .inr ⟨cause, v, hends, rfl⟩

/-! ## Runs -/

/-- A pass that a run has executed. -/
structure PassReport where
  pass : Pass
  targets : List EntityRef
  tally : Tally

/-- The run has executed passes one after the other, from a first world on. -/
inductive Executed (e : Engine) (clock : Clock) (crew : Crew) (w : World) : List PassReport → World → Prop
  | start : Executed e clock crew w [] w
  | pass {reports : List PassReport} {u v v' : World} (r : PassReport) (hbefore : Executed e clock crew w reports u)
      (htargets : Engine.targets r.pass u = .ok r.targets v)
      (hpass : e.runPass clock crew r.pass r.targets v = .ok r.tally v') :
      Executed e clock crew w (reports ++ [r]) v'

/-- The counters are those of the last of some passes; if there is none, they are as they were. -/
def ShowsLast (e : Engine) (clock : Clock) (reports : List PassReport) (before after : Tracker) : Prop :=
  match reports.getLast? with
  | none => after.processed = before.processed ∧ after.total = before.total
  | some r => e.PassShown clock r.pass r.targets.length r.tally.skipped after

/-- Executed passes leave the progress of the last one. -/
theorem Executed.shows {reports : List PassReport} (hexecuted : e.Executed clock crew w reports v) :
    e.ShowsLast clock reports w.tracker v.tracker := by
  cases hexecuted with
  | start => exact ⟨rfl, rfl⟩
  | @pass reports u v v' r hbefore htargets hpass =>
      unfold ShowsLast
      rw [List.getLast?_concat]
      rcases e.runPass_ends clock crew r.pass r.targets v with ⟨tally, v'', hends, hshown⟩ | ⟨cause, v'', -, hends⟩
      · rw [hpass] at hends
        cases hends
        exact hshown
      · rw [hpass] at hends
        cases hends

/-- The passes that a run is asked for, in their order. -/
def askedPasses (options : RunOptions) : List Pass :=
  [Pass.suppliers, .parts, .recommendations].filter (·.wanted options)

/-- After some passes, the next listing fails that the run is asked for: that of the targets of a pass, or that of the
alerts. -/
def ListingFails (e : Engine) (sink : Sink) (options : RunOptions) (executed : List Pass) (u : World)
    (error : RiskError) (v : World) : Prop :=
  (∃ pass later, askedPasses options = executed ++ pass :: later ∧ targets pass u = .error (.failure error) v) ∨
    askedPasses options = executed ∧ options.dispatchAlerts = true ∧ e.dispatchDue sink u = .error (.failure error) v

/-- How a run leaves the counters: as the last pass does that it has executed, unless the program ends.  If it has
returned a summary, it has executed all passes that it is asked for; if it has failed, those before the listing that
has failed. -/
def LeavesProgress (e : Engine) (clock : Clock) (crew : Crew) (sink : Sink) (options : RunOptions) (w : World) :
    EStateM.Result Halt World RunSummary → Prop
  | .ok _ v =>
      ∃ reports u, e.Executed clock crew w reports u ∧ reports.map (·.pass) = askedPasses options ∧
        e.ShowsLast clock reports w.tracker v.tracker
  | .error (.failure error) v =>
      ∃ reports u, e.Executed clock crew w reports u ∧ e.ListingFails sink options (reports.map (·.pass)) u error v ∧
        e.ShowsLast clock reports w.tracker v.tracker
  | .error .calendar _ | .error .word _ => True

/-- So far, a run has executed those of some passes that it is asked for. -/
def Reached (e : Engine) (clock : Clock) (crew : Crew) (options : RunOptions) (passes : List Pass) (w u : World) :
    Prop :=
  ∃ reports, e.Executed clock crew w reports u ∧ reports.map (·.pass) = passes.filter (·.wanted options)

/-- The next pass is executed if it is asked for, unless its targets are not listed or the program ends. -/
theorem passIf_ends {options : RunOptions} {passes : List Pass} {u : World}
    (hreached : e.Reached clock crew options passes w u) (pass : Pass) (add : RunSummary → Tally → RunSummary)
    (summary : RunSummary) :
    (∃ summary' v, e.passIf clock crew (pass.wanted options) pass add summary u = .ok summary' v ∧
        e.Reached clock crew options (passes ++ [pass]) w v) ∨
      (∃ error v, e.passIf clock crew (pass.wanted options) pass add summary u = .error (.failure error) v ∧
        pass.wanted options = true ∧ targets pass u = .error (.failure error) v) ∨
      ∃ cause v, cause.Ends ∧ e.passIf clock crew (pass.wanted options) pass add summary u = .error cause v := by
  obtain ⟨reports, hexecuted, hpasses⟩ := hreached
  unfold passIf
  cases hwanted : pass.wanted options with
  | false =>
      refine .inl ⟨summary, u, rfl, reports, hexecuted, ?_⟩
      rw [hpasses, List.filter_append, List.filter_cons_of_neg (by rw [hwanted]; decide)]
      exact (List.append_nil _).symm
  | true =>
      rw [if_pos rfl, Running.bind_apply]
      -- Listing can fail; visiting can only end with the program.
      cases htargets : targets pass u with
      | error cause v =>
          cases cause with
          | failure error => exact .inr (.inl ⟨error, v, rfl, rfl, rfl⟩)
          | calendar => exact .inr (.inr ⟨_, v, .calendar, rfl⟩)
          | word => exact .inr (.inr ⟨_, v, .word, rfl⟩)
      | ok listed v =>
          dsimp only
          rw [Running.bind_apply]
          rcases e.runPass_ends clock crew pass listed v with
            ⟨tally, v', hends, -⟩ | ⟨cause, v', hcause, hends⟩
          · rw [hends]
            refine .inl ⟨add summary tally, v', rfl, _, .pass ⟨pass, listed, tally⟩ hexecuted htargets hends, ?_⟩
            rw [List.map_append, hpasses, List.filter_append, List.filter_cons_of_pos hwanted]
            rfl
          · rw [hends]
            exact .inr (.inr ⟨cause, v', hcause, rfl⟩)

theorem dispatchIf_failed {wanted : Bool} {sink : Sink} {summary : RunSummary} {error : RiskError} {u : World}
    (hends : e.dispatchIf wanted sink summary u = .error (.failure error) v) :
    wanted = true ∧ e.dispatchDue sink u = .error (.failure error) v := by
  unfold dispatchIf at hends
  cases wanted with
  | false => cases hends
  | true =>
      rw [if_pos rfl, Running.bind_apply] at hends
      refine ⟨rfl, ?_⟩
      cases hdue : e.dispatchDue sink u with
      | ok report v' =>
          rw [hdue] at hends
          cases hends
      | error cause v' =>
          rw [hdue] at hends
          cases hends
          rfl

/-- What a run does from wherever its next pass gets decides how it leaves the counters from before that pass. -/
theorem Reached.leaves_pass {options : RunOptions} {passes : List Pass} {u : World}
    (hreached : e.Reached clock crew options passes w u) (sink : Sink) (pass : Pass) (later : List Pass)
    (hpasses : passes ++ pass :: later = [.suppliers, .parts, .recommendations])
    (add : RunSummary → Tally → RunSummary) (summary : RunSummary) {rest : RunSummary → Running RunSummary}
    (hrest : ∀ summary' v, e.Reached clock crew options (passes ++ [pass]) w v →
      e.LeavesProgress clock crew sink options w (rest summary' v)) :
    e.LeavesProgress clock crew sink options w
      ((e.passIf clock crew (pass.wanted options) pass add summary >>= rest) u) := by
  rw [Running.bind_apply]
  rcases passIf_ends hreached pass add summary with
    ⟨summary', v, hends, hnext⟩ | ⟨error, v, hends, hwanted, htargets⟩ | ⟨cause, v, hcause, hends⟩
  · rw [hends]
    exact hrest summary' v hnext
  · rw [hends]
    obtain ⟨reports, hexecuted, hreports⟩ := hreached
    refine ⟨reports, u, hexecuted, .inl ⟨pass, later.filter (·.wanted options), ?_, htargets⟩, ?_⟩
    · rw [askedPasses, ← hpasses, List.filter_append, List.filter_cons_of_pos hwanted, hreports]
    · rw [(quiet_targets pass).of_error htargets]
      exact hexecuted.shows
  · rw [hends]
    cases hcause <;> trivial

/-- After all passes the counters stay as they are, whether alerts are sent out or not. -/
theorem Reached.leaves_dispatch {options : RunOptions} {u : World}
    (hreached : e.Reached clock crew options [.suppliers, .parts, .recommendations] w u) (sink : Sink)
    (summary : RunSummary) :
    e.LeavesProgress clock crew sink options w
      ((do return (← e.dispatchIf options.dispatchAlerts sink summary).sortErrors) u) := by
  obtain ⟨reports, hexecuted, hreports⟩ := hreached
  have hquiet : Running.Quiet (e.dispatchIf options.dispatchAlerts sink summary) := quiet_dispatchIf _ sink summary
  rw [Running.bind_apply]
  cases hends : e.dispatchIf options.dispatchAlerts sink summary u with
  | error cause v =>
      cases cause with
      | failure error =>
          refine ⟨reports, u, hexecuted, .inr ⟨hreports.symm, dispatchIf_failed hends⟩, ?_⟩
          rw [hquiet.of_error hends]
          exact hexecuted.shows
      | calendar => trivial
      | word => trivial
  | ok summary' v =>
      refine ⟨reports, u, hexecuted, hreports, ?_⟩
      show e.ShowsLast clock reports w.tracker v.tracker
      rw [hquiet.of_ok hends]
      exact hexecuted.shows

/-- A run leaves the counters as its last pass does. -/
theorem runTimed_leaves (clock : Clock) (crew : Crew) (sink : Sink) (options : RunOptions) (w : World) :
    e.LeavesProgress clock crew sink options w (e.runTimed clock crew sink options w) := by
  unfold runTimed
  split
  · have hstart : e.Reached clock crew options [] w w := ⟨[], .start, rfl⟩
    refine hstart.leaves_pass sink .suppliers _ rfl .addSuppliers {} fun summary _ hsuppliers => ?_
    refine hsuppliers.leaves_pass sink .parts _ rfl .addParts summary fun summary _ hparts => ?_
    refine hparts.leaves_pass sink .recommendations _ rfl .addRecommendations summary fun summary _ hall => ?_
    exact hall.leaves_dispatch sink summary
  · trivial

/-- A run keeps track if it nests its scopes, so that it brings the context back, and leaves the counters of its last
pass. -/
structure KeepsTrack (e : Engine) (clock : Clock) (crew : Crew) (sink : Sink) (options : RunOptions)
    (run : Running RunSummary) : Prop where
  nested : run.WellNested
  context : ∀ w, (run.trackerAfter w).context = w.tracker.context
  progress : ∀ w, e.LeavesProgress clock crew sink options w (run w)

theorem runTimed_keepsTrack (clock : Clock) (crew : Crew) (sink : Sink) (options : RunOptions) :
    e.KeepsTrack clock crew sink options (e.runTimed clock crew sink options) where
  nested := e.runTimed_wellNested clock crew sink options
  context := (e.runTimed_wellNested clock crew sink options).context
  progress := e.runTimed_leaves clock crew sink options

/-- **The context is balanced, and the counters are those of the last pass.**  In well-nested steps, a guard that is
dropped brings back the context in which its scope was opened, and all steps together leave the context as it was.  A
run keeps track, whoever visits its targets and whatever the clock shows. -/
theorem context_and_progress :
    (∀ steps, Nested steps →
      (∀ g : GuardedTracker, (g.play steps).tracker.context = g.tracker.context) ∧
        ∀ earlier later, steps = earlier ++ .leave :: later →
          ∃ before scope inside, earlier = before ++ .enter scope :: inside ∧ Nested inside ∧
            ∀ g : GuardedTracker, (g.play (earlier ++ [.leave])).tracker.context = (g.play before).tracker.context) ∧
    ∀ (e : Engine) (clock : Clock) (crew : Crew) (sink : Sink) (options : RunOptions),
      e.KeepsTrack clock crew sink options (e.runTimed clock crew sink options) := by
  refine ⟨fun steps hsteps => ⟨fun g => (hsteps.play_restores g).1, fun earlier later hleave => ?_⟩,
    fun e => e.runTimed_keepsTrack⟩
  obtain ⟨before, scope, inside, rfl, hinside⟩ := hsteps.opens hleave
  exact ⟨before, scope, inside, rfl, hinside, hinside.leave_restores before scope⟩

/-- Of two parts the first one is visited in the first second of a run, and the second one is skipped.  Before and after
the run the engine is reporting. -/
theorem second_part_is_late :
    let e : Engine := ⟨{ run := { timeoutSeconds := some 1 } }, {}, .midnight Store.sampleDay⟩
    let clock : Clock := ⟨1, fun _ place _ => place * 1000000000⟩
    let run := e.runTimed clock .caller .accepting { partsOnly := true }
    let reporting : Tracker := { context := { phase := some .reporting } }
    let play := GuardedTracker.play ⟨reporting, []⟩
    let opened : List TrackerStep := [.enter (.phase .partAssessment), .enter (.entity (.part ⟨10⟩)), .increment]
    (Nested (opened ++ [.leave, .leave]) ∧ (play (opened ++ [.leave, .leave])).tracker.context = reporting.context ∧
      ∃ before scope inside, opened = before ++ .enter scope :: inside ∧
        (play (opened ++ [.leave])).tracker.context = (play before).tracker.context) ∧
      run.trackerAfter { backend := .plain twoParts, tracker := reporting } =
        { reporting with processed := 1, total := 2 } ∧
      e.KeepsTrack clock .caller .accepting { partsOnly := true } run := by
  intro e clock run reporting play opened
  have hentity : Nested [.enter (.entity (.part ⟨10⟩)), .increment, .leave] := .scope _ (.increment .done) .done
  have hvisit := Nested.scope (.phase .partAssessment) hentity .done
  obtain ⟨hnested, hruns⟩ := context_and_progress
  obtain ⟨hrestores, hcloses⟩ := hnested _ hvisit
  obtain ⟨before, scope, inside, hopened, -, hcontext⟩ := hcloses opened [.leave] rfl
  refine ⟨⟨hvisit, hrestores _, before, scope, inside, hopened, hcontext _⟩, ?_,
    hruns e clock .caller .accepting { partsOnly := true }⟩
  decide +kernel

end Engine

end SupplyRisk
