import SupplyRisk.Engine.Run
import SupplyRisk.Proofs.Script
import SupplyRisk.Proofs.Tracker

/-!
# Runs nest their scopes

All that a step of a run does to its tracker are well-nested steps (`Running.WellNested`), though the step may end
early: listings and dispatch, visits that fail, are repeated or find the time over, and so whole runs
(`Engine.runTimed_wellNested`).  From a thread of a pool only the counters are seen (`Running.wellNested_onThread`).
-/

namespace SupplyRisk

namespace Running

variable {α β : Type}

/-- The tracker that a step leaves behind, however it ends. -/
def trackerAfter (x : Running α) (w : World) : Tracker :=
  match x w with
  | .ok _ v => v.tracker
  | .error _ v => v.tracker

theorem bind_apply (x : Running α) (g : α → Running β) (w : World) :
    (x >>= g) w =
      match x w with
      | .ok a v => g a v
      | .error cause v => .error cause v := by
  show EStateM.bind x g w = _
  unfold EStateM.bind
  cases x w <;> rfl

/-- Within a scope a step finds the changed context, and the one before it comes back. -/
theorem trackerAfter_within (change : Context → Context) (x : Running α) (w : World) :
    (within change x).trackerAfter w =
      { x.trackerAfter { w with tracker := { w.tracker with context := change w.tracker.context } } with
        context := w.tracker.context } := by
  unfold trackerAfter within
  dsimp only
  cases x { w with tracker := { w.tracker with context := change w.tracker.context } } <;> rfl

/-- Only the counters of work on another thread are seen. -/
theorem trackerAfter_onThread (context : Context) (x : Running α) (w : World) :
    (onThread context x).trackerAfter w =
      { x.trackerAfter { w with tracker := { w.tracker with context } } with context := w.tracker.context } := by
  unfold trackerAfter onThread
  dsimp only
  cases x { w with tracker := { w.tracker with context } } <;> rfl

/-! ## Quiet steps -/

/-- The step leaves the tracker as it finds it, however it ends. -/
def Quiet (x : Running α) : Prop := ∀ w, x.trackerAfter w = w.tracker

theorem Quiet.of_ok {x : Running α} {a : α} {w v : World} (hx : Quiet x) (hends : x w = .ok a v) :
    v.tracker = w.tracker := by
  have hw := hx w
  rwa [trackerAfter, hends] at hw

theorem Quiet.of_error {x : Running α} {cause : Halt} {w v : World} (hx : Quiet x) (hends : x w = .error cause v) :
    v.tracker = w.tracker := by
  have hw := hx w
  rwa [trackerAfter, hends] at hw

theorem quiet_pure (a : α) : Quiet (pure a) := fun _ => rfl

theorem quiet_throw (cause : Halt) : Quiet (throw cause : Running α) := fun _ => rfl

theorem quiet_bind {x : Running α} {g : α → Running β} (hx : Quiet x) (hg : ∀ a, Quiet (g a)) : Quiet (x >>= g) := by
  intro w
  have hw := hx w
  unfold trackerAfter at hw ⊢
  rw [bind_apply]
  cases hrun : x w with
  | ok a v =>
      rw [hrun] at hw
      exact (hg a v).trans hw
  | error cause v =>
      rw [hrun] at hw
      exact hw

theorem quiet_modify {change : World → World} (hchange : ∀ w, (change w).tracker = w.tracker) :
    Quiet (modify change : Running Unit) := hchange

theorem quiet_play (script : Script α) : Quiet (play script) := by
  intro w
  unfold trackerAfter play
  generalize script.run w.backend = ended
  obtain ⟨result, backend⟩ := ended
  cases result <;> rfl

theorem quiet_within {x : Running α} (change : Context → Context) (hx : Quiet x) : Quiet (within change x) := by
  intro w
  rw [trackerAfter_within, hx]

/-! ## Well-nested steps -/

/-- What the step does to the tracker are well-nested steps, whatever guards are kept while it runs. -/
def WellNested (x : Running α) : Prop :=
  ∀ w, ∃ steps, Nested steps ∧ ∀ saved, GuardedTracker.play ⟨w.tracker, saved⟩ steps = ⟨x.trackerAfter w, saved⟩

/-- A well-nested step brings the context back. -/
theorem WellNested.context {x : Running α} (hx : WellNested x) (w : World) :
    (x.trackerAfter w).context = w.tracker.context := by
  obtain ⟨steps, hsteps, hplay⟩ := hx w
  rw [← (hsteps.play_restores ⟨w.tracker, []⟩).1, hplay]

theorem Quiet.wellNested {x : Running α} (hx : Quiet x) : WellNested x := fun w =>
  ⟨[], .done, fun saved => by rw [hx w]; rfl⟩

theorem wellNested_progress (processed total : UInt64) : WellNested (track (·.setProgress processed total)) := fun _ =>
  ⟨_, .progress processed total .done, fun _ => rfl⟩

theorem wellNested_increment : WellNested (track Tracker.increment) := fun _ =>
  ⟨_, .increment .done, fun _ => rfl⟩

theorem wellNested_bind {x : Running α} {g : α → Running β} (hx : WellNested x) (hg : ∀ a, WellNested (g a)) :
    WellNested (x >>= g) := by
  intro w
  obtain ⟨steps, hsteps, hplay⟩ := hx w
  unfold trackerAfter at hplay ⊢
  rw [bind_apply]
  cases hrun : x w with
  | ok a v =>
      rw [hrun] at hplay
      obtain ⟨more, hmore, hplay'⟩ := hg a v
      exact ⟨steps ++ more, hsteps.append hmore, fun saved => by
        rw [GuardedTracker.play_append, hplay]
        exact hplay' saved⟩
  | error cause v =>
      rw [hrun] at hplay
      exact ⟨steps, hsteps, hplay⟩

theorem wellNested_foldlM {g : α → β → Running α} (hg : ∀ a b, WellNested (g a b)) (bs : List β) (a : α) :
    WellNested (bs.foldlM g a) := by
  induction bs generalizing a with
  | nil => exact (quiet_pure a).wellNested
  | cons b bs ih => exact wellNested_bind (hg a b) ih

/-- A scope of a run is one of a guard. -/
theorem wellNested_within {x : Running α} (scope : Scope) (hx : WellNested x) : WellNested (within scope.change x) := by
  intro w
  obtain ⟨inside, hinside, hplay⟩ :=
    hx { w with tracker := { w.tracker with context := scope.change w.tracker.context } }
  refine ⟨_, .scope scope hinside .done, fun saved => ?_⟩
  rw [GuardedTracker.play_append, trackerAfter_within]
  exact congrArg GuardedTracker.leave (hplay (w.tracker.context :: saved))

/-- Work on another thread is seen by its counters only. -/
theorem wellNested_onThread {x : Running α} (context : Context) (hx : WellNested x) :
    WellNested (onThread context x) := by
  intro w
  obtain ⟨steps, -, hplay⟩ := hx { w with tracker := { w.tracker with context } }
  refine ⟨_, Nested.filter_counts steps, fun saved => ?_⟩
  have hseen := GuardedTracker.play_counts ⟨{ w.tracker with context }, []⟩ ⟨w.tracker, saved⟩ rfl rfl steps
  rw [hseen, hplay, trackerAfter_onThread]

end Running

namespace Engine

variable {e : Engine}

/-- An attempt ends with an answer, or the program ends, and nothing but the store has changed. -/
theorem attempt_ends (late : Nat → Bool) (pass : Pass) (entity : EntityRef) (w : World) :
    (∃ outcome backend, e.attempt late pass entity w = .ok outcome { w with backend }) ∨
      ∃ cause backend, cause.Ends ∧ e.attempt late pass entity w = .error cause { w with backend } := by
  unfold attempt
  generalize retryingUntil e.config.retry late (e.work pass entity).run 0 0 w.backend = ended
  obtain ⟨result, backend⟩ := ended
  cases result with
  | ok outcome => exact .inl ⟨_, backend, rfl⟩
  | error cause =>
      cases cause with
      | failure error => exact .inl ⟨_, backend, rfl⟩
      | calendar => exact .inr ⟨_, backend, .calendar, rfl⟩
      | word => exact .inr ⟨_, backend, .word, rfl⟩

theorem quiet_attempt (late : Nat → Bool) (pass : Pass) (entity : EntityRef) :
    Running.Quiet (e.attempt late pass entity) := by
  intro w
  unfold Running.trackerAfter
  rcases e.attempt_ends late pass entity w with ⟨outcome, backend, hattempt⟩ | ⟨cause, backend, -, hattempt⟩ <;>
    rw [hattempt]

theorem quiet_targets (pass : Pass) : Running.Quiet (targets pass) := by
  refine Running.quiet_within _ ?_
  cases pass with
  | suppliers => exact Running.quiet_bind (Running.quiet_play _) fun _ => Running.quiet_pure _
  | parts => exact Running.quiet_bind (Running.quiet_play _) fun _ => Running.quiet_pure _
  | recommendations => exact Running.quiet_bind (Running.quiet_play _) fun _ => Running.quiet_pure _

theorem quiet_dispatchDue (sink : Sink) : Running.Quiet (e.dispatchDue sink) := by
  refine Running.quiet_within _ (Running.quiet_bind (Running.quiet_play _) fun alerts => ?_)
  split
  · exact Running.quiet_throw _
  · exact Running.quiet_bind (Running.quiet_modify fun _ => rfl) fun _ => Running.quiet_pure _

theorem quiet_dispatchIf (wanted : Bool) (sink : Sink) (summary : RunSummary) :
    Running.Quiet (e.dispatchIf wanted sink summary) := by
  unfold dispatchIf
  split
  · exact Running.quiet_bind (quiet_dispatchDue sink) fun _ => Running.quiet_pure _
  · exact Running.quiet_pure _

theorem wellNested_visit (late : Nat → Bool) (pass : Pass) (tally : Tally) (entity : EntityRef) :
    Running.WellNested (e.visit late pass tally entity) := by
  unfold visit
  split
  · exact (Running.quiet_pure _).wellNested
  · refine Running.wellNested_within (.phase pass.phase) (Running.wellNested_within (.entity entity) ?_)
    refine Running.wellNested_bind (quiet_attempt _ pass entity).wellNested fun outcome => ?_
    refine Running.wellNested_bind Running.wellNested_increment fun _ => ?_
    cases outcome with
    | ok outcome => exact (Running.quiet_pure _).wellNested
    | error error => exact (Running.quiet_pure _).wellNested

theorem wellNested_turn (clock : Clock) (pass : Pass) (targets : List EntityRef) (soFar : Tally × (Nat → Context))
    (t : Nat × Fin targets.length) : Running.WellNested (e.turn clock pass targets soFar t) :=
  Running.wellNested_bind (Running.wellNested_onThread _ (e.wellNested_visit _ pass _ _)) fun _ =>
    (Running.quiet_pure _).wellNested

theorem wellNested_runPass (clock : Clock) (crew : Crew) (pass : Pass) (targets : List EntityRef) :
    Running.WellNested (e.runPass clock crew pass targets) := by
  refine Running.wellNested_bind (Running.wellNested_progress _ _) fun _ => ?_
  split
  · exact Running.wellNested_foldlM (fun tally (target : EntityRef × Nat) =>
      e.wellNested_visit _ pass tally target.1) _ _
  · exact Running.wellNested_bind (Running.wellNested_foldlM (e.wellNested_turn clock pass targets) _ _) fun _ =>
      (Running.quiet_pure _).wellNested

theorem wellNested_passIf (clock : Clock) (crew : Crew) (wanted : Bool) (pass : Pass)
    (add : RunSummary → Tally → RunSummary) (summary : RunSummary) :
    Running.WellNested (e.passIf clock crew wanted pass add summary) := by
  unfold passIf
  split
  · exact Running.wellNested_bind (quiet_targets pass).wellNested fun targets =>
      Running.wellNested_bind (e.wellNested_runPass clock crew pass targets) fun _ =>
        (Running.quiet_pure _).wellNested
  · exact (Running.quiet_pure _).wellNested

/-- A run nests its scopes, whoever visits its targets and whatever the clock shows. -/
theorem runTimed_wellNested (clock : Clock) (crew : Crew) (sink : Sink) (options : RunOptions) :
    Running.WellNested (e.runTimed clock crew sink options) := by
  unfold runTimed
  split
  · refine Running.wellNested_bind (e.wellNested_passIf clock crew _ _ _ _) fun summary => ?_
    refine Running.wellNested_bind (e.wellNested_passIf clock crew _ _ _ _) fun summary => ?_
    refine Running.wellNested_bind (e.wellNested_passIf clock crew _ _ _ _) fun summary => ?_
    exact Running.wellNested_bind (quiet_dispatchIf _ sink summary).wellNested fun _ =>
      (Running.quiet_pure _).wellNested
  · exact (Running.quiet_throw _).wellNested

end Engine

end SupplyRisk
