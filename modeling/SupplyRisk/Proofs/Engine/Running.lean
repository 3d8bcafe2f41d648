import SupplyRisk.Engine.Run
import SupplyRisk.Proofs.Engine.Attempts
import SupplyRisk.Proofs.Script

/-!
# What a run keeps

A run touches its store through scripts only, whoever visits its targets and whatever the clock shows.  So an invariant
of the store that the work on one entity keeps, whether it succeeds or fails, is kept by repeated work
(`retryingUntil_keeps`), by a pass over any entities (`keeps_runPass`) and by a run (`keeps_run`).  Listings have to keep
it too.
-/

namespace SupplyRisk

variable {α β : Type} {I : FaultyStore → Prop}

/-- Repeated work ends as its last attempt does, or too late behind it, on a store with everything that attempts keep. -/
theorem retryingUntil_ends (p : RetryPolicy) (late : Nat → Bool) {work : FaultyStore → Except Halt α × FaultyStore}
    (hwork : ∀ f, I f → I (work f).2) (conflicts transients : Nat) (f : FaultyStore) (h : I f) :
    ∃ g, I g ∧ (retryingUntil p late work conflicts transients f = work g ∨
      retryingUntil p late work conflicts transients f = (.error (.failure .timeout), (work g).2)) := by
  -- One case for each way on: out of time, a conflict, another failure, a failure that is not repeated, an end.
  induction conflicts, transients, f using retryingUntil.induct p late work with
  | case1 conflicts transients f e f' hrun hallows hlate =>
      refine ⟨f, h, .inr ?_⟩
      rw [retryingUntil_late hrun hallows hlate, hrun]
  | case2 conflicts transients f e f' hrun hallows hintime hconflict ih =>
      have hf' := hwork f h
      rw [hrun] at hf'
      rw [retryingUntil_again hrun hallows hintime, if_pos hconflict]
      exact ih hf'
  | case3 conflicts transients f e f' hrun hallows hintime hconflict ih =>
      have hf' := hwork f h
      rw [hrun] at hf'
      rw [retryingUntil_again hrun hallows hintime, if_neg hconflict]
      exact ih hf'
  | case4 conflicts transients f e f' hrun hallows => exact ⟨f, h, .inl (retryingUntil_refused hrun hallows)⟩
  | case5 conflicts transients f hdone => exact ⟨f, h, .inl (retryingUntil_done hdone)⟩

/-- Repeated work keeps what the work keeps. -/
theorem retryingUntil_keeps (p : RetryPolicy) (late : Nat → Bool) {work : FaultyStore → Except Halt α × FaultyStore}
    (hwork : ∀ f, I f → I (work f).2) (conflicts transients : Nat) (f : FaultyStore) (h : I f) :
    I (retryingUntil p late work conflicts transients f).2 := by
  obtain ⟨g, hg, hends | hends⟩ := retryingUntil_ends p late hwork conflicts transients f h
  · rw [hends]
    exact hwork g hg
  · rw [hends]
    exact hwork g hg

namespace Running

/-- The store that a step leaves behind, however it ends. -/
def storeAfter (x : Running α) (w : World) : FaultyStore :=
  match x w with
  | .ok _ w' => w'.backend
  | .error _ w' => w'.backend

/-- The step succeeds, and its answer and the world that it leaves pass a test. -/
def passes (x : Running α) (w : World) (test : α → World → Bool) : Bool :=
  match x w with
  | .ok a w' => test a w'
  | .error _ _ => false

theorem exists_of_passes (x : Running α) (w : World) (test : α → World → Bool) (hpasses : x.passes w test = true) :
    ∃ a w', x w = .ok a w' ∧ test a w' = true := by
  unfold passes at hpasses
  cases hrun : x w with
  | ok a w' =>
      rw [hrun] at hpasses
      exact ⟨a, w', rfl, hpasses⟩
  | error cause w' =>
      rw [hrun] at hpasses
      cases hpasses

/-- The step keeps an invariant of the store, however it ends. -/
def Keeps (I : FaultyStore → Prop) (x : Running α) : Prop :=
  ∀ w : World, I w.backend → I (x.storeAfter w)

theorem keeps_pure (a : α) : Keeps I (pure a) := fun _ h => h

theorem keeps_throw (cause : Halt) : Keeps I (throw cause : Running α) := fun _ h => h

theorem keeps_bind {x : Running α} {g : α → Running β} (hx : Keeps I x) (hg : ∀ a, Keeps I (g a)) :
    Keeps I (x >>= g) := by
  intro w h
  have hw := hx w h
  have hbind : (x >>= g).storeAfter w =
      match x w with
      | .ok a w' => (g a).storeAfter w'
      | .error _ w' => w'.backend := by
    show storeAfter (EStateM.bind x g) w = _
    unfold storeAfter EStateM.bind
    cases x w with
    | ok a w' => rfl
    | error cause w' => rfl
  rw [hbind]
  unfold storeAfter at hw
  cases hrun : x w with
  | ok a w' =>
      rw [hrun] at hw
      exact hg a w' hw
  | error cause w' =>
      rw [hrun] at hw
      exact hw

/-- A step that changes the rest of the world keeps everything. -/
theorem keeps_modify {change : World → World} (hchange : ∀ w, (change w).backend = w.backend) :
    Keeps I (modify change : Running Unit) := by
  intro w h
  show I (change w).backend
  rwa [hchange]

theorem keeps_play {script : Script α} (hscript : ∀ f, I f → I (script.run f).2) :
    Keeps I (play script) := by
  intro w h
  have hf := hscript w.backend h
  unfold storeAfter play
  cases hrun : script.run w.backend with
  | mk result f =>
      rw [hrun] at hf
      cases result with
      | ok a => exact hf
      | error cause => exact hf

theorem keeps_within {x : Running α} (change : Context → Context) (hx : Keeps I x) :
    Keeps I (within change x) := by
  intro w h
  have hw := hx { w with tracker := { w.tracker with context := change w.tracker.context } } h
  unfold storeAfter at hw
  unfold storeAfter within
  dsimp only
  split at hw
  · rename_i a w' hrun
    rw [hrun]
    exact hw
  · rename_i cause w' hrun
    rw [hrun]
    exact hw

theorem keeps_onThread {x : Running α} (context : Context) (hx : Keeps I x) : Keeps I (onThread context x) := by
  intro w h
  have hw := hx { w with tracker := { w.tracker with context } } h
  unfold storeAfter at hw
  unfold storeAfter onThread
  dsimp only
  split at hw
  · rename_i a w' hrun
    rw [hrun]
    exact hw
  · rename_i cause w' hrun
    rw [hrun]
    exact hw

theorem keeps_track (change : Tracker → Tracker) : Keeps I (track change) :=
  keeps_modify fun _ => rfl

theorem keeps_foldlM {g : β → α → Running β} (hg : ∀ b a, Keeps I (g b a)) (as : List α) (b : β) :
    Keeps I (as.foldlM g b) := by
  induction as generalizing b with
  | nil => exact keeps_pure b
  | cons a as ih =>
      rw [List.foldlM_cons]
      exact keeps_bind (hg b a) ih

theorem keeps_enumerate {target : String} {c : StoreCall} (hc : ∀ f, I f → I (f.perform c).2)
    (hgive : ∀ f, I f → I (f.giveUp c)) : Keeps I (enumerate target c) := by
  have honly : ((Script.ask c).recover (fun e => Script.fail (.enumerating target e))).Only (· = c) :=
    Script.only_recover (Script.only_ask rfl) fun e => Script.only_fail _
  apply keeps_play
  exact Script.run_keeps honly (fun c' hc' => hc' ▸ hc) fun c' hc' => hc' ▸ hgive

end Running

namespace Engine

variable {e : Engine}

theorem keeps_attempt {pass : Pass} {entity : EntityRef} (late : Nat → Bool)
    (hwork : ∀ f, I f → I ((e.work pass entity).run f).2) : (e.attempt late pass entity).Keeps I := by
  intro w h
  have hf := retryingUntil_keeps e.config.retry late hwork 0 0 w.backend h
  unfold Running.storeAfter attempt
  generalize retryingUntil e.config.retry late (e.work pass entity).run 0 0 w.backend = ended at hf ⊢
  obtain ⟨result, backend⟩ := ended
  cases result with
  | ok outcome => exact hf
  | error cause => cases cause <;> exact hf

theorem keeps_visit {pass : Pass} (hwork : ∀ entity f, I f → I ((e.work pass entity).run f).2)
    (late : Nat → Bool) (tally : Tally) (entity : EntityRef) : (e.visit late pass tally entity).Keeps I := by
  unfold visit
  split
  · exact Running.keeps_pure _
  · refine Running.keeps_within _ (Running.keeps_within _ ?_)
    refine Running.keeps_bind (keeps_attempt _ (hwork entity)) fun result => ?_
    refine Running.keeps_bind (Running.keeps_track _) fun _ => ?_
    cases result with
    | ok outcome => exact Running.keeps_pure _
    | error error => exact Running.keeps_pure _

/-- A pass keeps what the work on every entity keeps, whoever visits them. -/
theorem keeps_runPass {pass : Pass} (hwork : ∀ entity f, I f → I ((e.work pass entity).run f).2)
    (clock : Clock) (crew : Crew) (targets : List EntityRef) : (e.runPass clock crew pass targets).Keeps I := by
  refine Running.keeps_bind (Running.keeps_track _) fun _ => ?_
  split
  · exact Running.keeps_foldlM (fun tally (target : EntityRef × Nat) => keeps_visit hwork _ tally target.1) _ {}
  · refine Running.keeps_bind (Running.keeps_foldlM (fun soFar t => ?_) _ _) fun _ => Running.keeps_pure _
    exact Running.keeps_bind (Running.keeps_onThread _ (keeps_visit hwork _ _ _)) fun _ => Running.keeps_pure _

/-- Listings, whose failure is all that they can bring about. -/
def Lists (c : StoreCall) : Prop := c = .suppliers ∨ c = .parts ∨ c = .partRisks ∨ c = .alerts

theorem Lists.giveUp {c : StoreCall} (hlists : Lists c) (f : FaultyStore) : f.giveUp c = f := by
  rcases hlists with rfl | rfl | rfl | rfl <;> rfl

variable (hlists : ∀ c, Lists c → ∀ f, I f → I (f.perform c).2)
include hlists

theorem keeps_list {target : String} {c : StoreCall} (hc : Lists c) : (Running.enumerate target c).Keeps I :=
  Running.keeps_enumerate (hlists c hc) fun f h => (hc.giveUp f).symm ▸ h

theorem keeps_targets (pass : Pass) : (targets pass).Keeps I := by
  refine Running.keeps_within _ ?_
  cases pass with
  | suppliers => exact Running.keeps_bind (keeps_list hlists (.inl rfl)) fun _ => Running.keeps_pure _
  | parts => exact Running.keeps_bind (keeps_list hlists (.inr (.inl rfl))) fun _ => Running.keeps_pure _
  | recommendations =>
      exact Running.keeps_bind (keeps_list hlists (.inr (.inr (.inl rfl)))) fun _ => Running.keeps_pure _

theorem keeps_passIf (hwork : ∀ pass entity f, I f → I ((e.work pass entity).run f).2) (clock : Clock) (crew : Crew)
    (wanted : Bool) (pass : Pass) (add : RunSummary → Tally → RunSummary) (summary : RunSummary) :
    (e.passIf clock crew wanted pass add summary).Keeps I := by
  unfold passIf
  split
  · refine Running.keeps_bind (keeps_targets hlists pass) fun targets => ?_
    exact Running.keeps_bind (keeps_runPass (hwork pass) clock crew targets) fun _ => Running.keeps_pure _
  · exact Running.keeps_pure _

theorem keeps_dispatchIf (wanted : Bool) (sink : Sink) (summary : RunSummary) :
    (e.dispatchIf wanted sink summary).Keeps I := by
  unfold dispatchIf
  split
  · refine Running.keeps_bind (Running.keeps_within _ ?_) fun _ => Running.keeps_pure _
    refine Running.keeps_bind (keeps_list hlists (.inr (.inr (.inr rfl)))) fun alerts => ?_
    split
    · exact Running.keeps_throw _
    · exact Running.keeps_bind (Running.keeps_modify fun _ => rfl) fun _ => Running.keeps_pure _
  · exact Running.keeps_pure _

/-- A run keeps what its listings and the work on every entity keep. -/
theorem keeps_run (hwork : ∀ pass entity f, I f → I ((e.work pass entity).run f).2) (clock : Clock) (crew : Crew)
    (sink : Sink) (options : RunOptions) : (e.runTimed clock crew sink options).Keeps I := by
  unfold runTimed
  split
  · refine Running.keeps_bind (keeps_passIf hlists hwork _ _ _ _ _ _) fun summary => ?_
    refine Running.keeps_bind (keeps_passIf hlists hwork _ _ _ _ _ _) fun summary => ?_
    refine Running.keeps_bind (keeps_passIf hlists hwork _ _ _ _ _ _) fun summary => ?_
    exact Running.keeps_bind (keeps_dispatchIf hlists _ _ _) fun _ => Running.keeps_pure _
  · exact Running.keeps_throw _

end Engine

end SupplyRisk
