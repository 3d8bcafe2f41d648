import SupplyRisk.Proofs.Engine.Running

/-!
# Runs on stores that are alike

Two worlds are alike when their stores are related and nothing else in them differs.  A step respects the relation
when from worlds that are alike it ends alike: with the same answer, or both at the end of the calendar or of the
numbers.  Where versions may differ, one of the two can come to the end of the numbers alone; nothing is said then.
A run respects every relation of stores that listings and the repeated work on entities respect (`respects_run`),
whoever visits the entities.  A listing may answer with rows that differ, as long as the run uses what they have in
common.
-/

namespace SupplyRisk

/-- Worlds with related stores and nothing else to tell them alone. -/
structure World.Alike (R : FaultyStore → FaultyStore → Prop) (w w' : World) : Prop where
  backend : R w.backend w'.backend
  tracker : w.tracker = w'.tracker
  received : w.received = w'.received

namespace Running

variable {α β γ : Type} {R : FaultyStore → FaultyStore → Prop}

/-- Steps that ended with the same answer, or both at the end of the calendar or of the numbers, in worlds that are
alike. -/
inductive EndAlike (R : FaultyStore → FaultyStore → Prop) :
    EStateM.Result Halt World α → EStateM.Result Halt World α → Prop
  | ok (a : α) {w w' : World} (halike : w.Alike R w') : EndAlike R (.ok a w) (.ok a w')
  | calendar {w w' : World} (halike : w.Alike R w') :
      EndAlike R (.error .calendar w) (.error .calendar w')
  | word {w w' : World} (halike : w.Alike R w') : EndAlike R (.error .word w) (.error .word w')

theorem EndAlike.mono {R' : FaultyStore → FaultyStore → Prop} {r r' : EStateM.Result Halt World α}
    (hends : EndAlike R r r') (himp : ∀ f g, R f g → R' f g) : EndAlike R' r r' := by
  cases hends with
  | ok a halike => exact .ok a ⟨himp _ _ halike.backend, halike.tracker, halike.received⟩
  | calendar halike => exact .calendar ⟨himp _ _ halike.backend, halike.tracker, halike.received⟩
  | word halike => exact .word ⟨himp _ _ halike.backend, halike.tracker, halike.received⟩

/-- The step has come to the end of the numbers. -/
def RunsOut (r : EStateM.Result Halt World α) : Prop := ∃ w, r = .error .word w

/-- The step has come to the end of the numbers, as it may alone. -/
def Breaks (alone : Prop) (r : EStateM.Result Halt World α) : Prop := alone ∧ RunsOut r

/-- From worlds that are alike the step ends alike, unless one of the two comes to the end of the numbers, as it may
alone. -/
def Respects (R : FaultyStore → FaultyStore → Prop) (alone : Prop) (x : Running α) : Prop :=
  ∀ w w' : World, w.Alike R w' → Breaks alone (x w) ∨ Breaks alone (x w') ∨ EndAlike R (x w) (x w')

variable {alone : Prop}

theorem respects_pure (a : α) : Respects R alone (pure a) := fun _ _ h => .inr (.inr (.ok a h))

theorem respects_calendar : Respects R alone (throw .calendar : Running α) := fun _ _ h => .inr (.inr (.calendar h))

/-- What stops a step stops what begins with it. -/
theorem Breaks.bind {x : Running α} {w : World} (hbreaks : Breaks alone (x w)) (g : α → Running β) :
    Breaks alone ((x >>= g) w) := by
  obtain ⟨halone, w', hx⟩ := hbreaks
  refine ⟨halone, w', ?_⟩
  show EStateM.bind x g w = _
  rw [EStateM.bind, hx]

theorem respects_bind {x : Running α} {g : α → Running β} (hx : Respects R alone x)
    (hg : ∀ a, Respects R alone (g a)) : Respects R alone (x >>= g) := by
  intro w w' h
  rcases hx w w' h with hbreaks | hbreaks | hends
  · exact .inl (hbreaks.bind g)
  · exact .inr (.inl (hbreaks.bind g))
  · show Breaks alone (EStateM.bind x g w) ∨ Breaks alone (EStateM.bind x g w') ∨
      EndAlike R (EStateM.bind x g w) (EStateM.bind x g w')
    unfold EStateM.bind
    generalize x w = ended at hends ⊢
    generalize x w' = ended' at hends ⊢
    cases hends with
    | ok a halike => exact hg a _ _ halike
    | calendar halike => exact .inr (.inr (.calendar halike))
    | word halike => exact .inr (.inr (.word halike))

/-- A change that looks at the common part of the worlds only. -/
theorem respects_modify {change : World → World}
    (hchange : ∀ w w', World.Alike R w w' → (change w).Alike R (change w')) :
    Respects R alone (modify change : Running Unit) := fun w w' h =>
  .inr (.inr (.ok () (hchange w w' h)))

theorem respects_track (change : Tracker → Tracker) : Respects R alone (track change) :=
  respects_modify fun _ _ h => ⟨h.backend, congrArg change h.tracker, h.received⟩

/-- Entering a scope or a thread and leaving it again, where the context in between is the same in both worlds. -/
theorem respects_scope {x : Running α} {y : Running β} (enter : World → World) (leave : World → World → World)
    (answer : α → World → β) (hx : Respects R alone x)
    (hy : ∀ w, y w =
      match x (enter w) with
      | .ok a u => .ok (answer a u) (leave w u)
      | .error cause u => .error cause (leave w u))
    (henter : ∀ w w', w.Alike R w' → (enter w).Alike R (enter w'))
    (hleave : ∀ w w' u u', w.Alike R w' → u.Alike R u' → (leave w u).Alike R (leave w' u'))
    (hanswer : ∀ a u u', World.Alike R u u' → answer a u = answer a u') : Respects R alone y := by
  intro w w' h
  have hbreaks (v : World) (hb : Breaks alone (x (enter v))) : Breaks alone (y v) := by
    obtain ⟨halone, u, hrun⟩ := hb
    refine ⟨halone, leave v u, ?_⟩
    rw [hy, hrun]
  rcases hx _ _ (henter w w' h) with hb | hb | hends
  · exact .inl (hbreaks w hb)
  · exact .inr (.inl (hbreaks w' hb))
  · refine .inr (.inr ?_)
    rw [hy, hy]
    generalize x (enter w) = ended at hends ⊢
    generalize x (enter w') = ended' at hends ⊢
    cases hends with
    | ok a halike =>
        dsimp only
        rw [hanswer a _ _ halike]
        exact .ok _ (hleave _ _ _ _ h halike)
    | calendar halike => exact .calendar (hleave _ _ _ _ h halike)
    | word halike => exact .word (hleave _ _ _ _ h halike)

theorem respects_within {x : Running α} (change : Context → Context) (hx : Respects R alone x) :
    Respects R alone (within change x) :=
  respects_scope (fun w => { w with tracker := { w.tracker with context := change w.tracker.context } })
    (fun w u => { u with tracker := { u.tracker with context := w.tracker.context } }) (fun a _ => a)
    hx (fun _ => rfl) (fun w w' h => ⟨h.backend, by rw [h.tracker], h.received⟩)
    (fun w w' u u' h hu => ⟨hu.backend, by rw [hu.tracker, h.tracker], hu.received⟩) (fun _ _ _ _ => rfl)

theorem respects_onThread {x : Running α} (context : Context) (hx : Respects R alone x) :
    Respects R alone (onThread context x) :=
  respects_scope (fun w => { w with tracker := { w.tracker with context } })
    (fun w u => { u with tracker := { u.tracker with context := w.tracker.context } })
    (fun a u => (a, u.tracker.context))
    hx (fun _ => rfl) (fun w w' h => ⟨h.backend, by rw [h.tracker], h.received⟩)
    (fun w w' u u' h hu => ⟨hu.backend, by rw [hu.tracker, h.tracker], hu.received⟩)
    (fun a u u' hu => by rw [hu.tracker])

theorem respects_foldlM {g : β → α → Running β} (hg : ∀ b a, Respects R alone (g b a)) (as : List α)
    (b : β) : Respects R alone (as.foldlM g b) := by
  induction as generalizing b with
  | nil => exact respects_pure b
  | cons a as ih =>
      rw [List.foldlM_cons]
      exact respects_bind (hg b a) ih

/-- On related stores the call succeeds and answers with the same, as far as `view` shows it. -/
def ListsAlike (R : FaultyStore → FaultyStore → Prop) (c : StoreCall) (view : c.Answer → γ) : Prop :=
  ∀ f f', R f f' → ∃ a b g g', f.perform c = (.ok a, g) ∧ f'.perform c = (.ok b, g') ∧
    view a = view b ∧ R g g'

theorem run_enumerate {c : StoreCall} {answer : c.Answer} {w : World} {g : FaultyStore}
    (hroom : w.backend.hasRoom c = true) (hperform : w.backend.perform c = (.ok answer, g)) (target : String) :
    enumerate target c w = .ok answer { w with backend := g } := by
  have hask : (Script.ask c).run w.backend = (.ok answer, g) := Script.run_ask_eq_ok_iff.2 ⟨hroom, hperform⟩
  simp only [enumerate, play, Script.run_recover_of_ok hask]

section

variable {c : StoreCall} (hroom : ∀ f : FaultyStore, f.hasRoom c = true)
include hroom

/-- A listing of rows that do not differ. -/
theorem respects_enumerate (hlists : ListsAlike R c id) (target : String) : Respects R alone (enumerate target c) := by
  intro w w' h
  obtain ⟨a, b, g, g', hperform, hperform', hsame, hrelated⟩ := hlists _ _ h.backend
  cases hsame
  rw [run_enumerate (hroom _) hperform, run_enumerate (hroom _) hperform']
  exact .inr (.inr (.ok a ⟨hrelated, h.tracker, h.received⟩))

/-- A listing of which only the common part is used. -/
theorem respects_enumerate_view {view : c.Answer → γ} (hlists : ListsAlike R c view) (target : String) :
    Respects R alone (enumerate target c >>= fun answer => pure (view answer)) := by
  intro w w' h
  obtain ⟨a, b, g, g', hperform, hperform', hsame, hrelated⟩ := hlists _ _ h.backend
  refine .inr (.inr ?_)
  show EndAlike R (EStateM.bind _ _ w) (EStateM.bind _ _ w')
  simp only [EStateM.bind, run_enumerate (hroom _) hperform, run_enumerate (hroom _) hperform', hsame]
  exact .ok (view b) ⟨hrelated, h.tracker, h.received⟩

end

end Running

namespace Engine

variable {R : FaultyStore → FaultyStore → Prop} {alone : Prop} {e : Engine}

/-- The work on every entity, repeated as long as there is time, ends alike on related stores. -/
def AttemptsAlike (e : Engine) (R : FaultyStore → FaultyStore → Prop) (alone : Prop) (late : Nat → Bool) : Prop :=
  ∀ pass entity f f', R f f' →
    let ended := retryingUntil e.config.retry late (e.work pass entity).run 0 0 f
    let ended' := retryingUntil e.config.retry late (e.work pass entity).run 0 0 f'
    alone ∧ (ended.1 = .error .word ∨ ended'.1 = .error .word) ∨ ended.1 = ended'.1 ∧ R ended.2 ended'.2

/-- The listings of a run show the same of related stores: of suppliers, parts and alerts everything, of risk
records of parts what a pass over them depends on. -/
structure ListingsAlike (R : FaultyStore → FaultyStore → Prop) : Prop where
  suppliers : Running.ListsAlike R .suppliers id
  parts : Running.ListsAlike R .parts id
  partRisks : Running.ListsAlike R .partRisks
    (fun records => (records.filter (·.isEligible)).map PartRisk.entity)
  alerts : Running.ListsAlike R .alerts id

theorem respects_attempt {late : Nat → Bool} (hattempts : e.AttemptsAlike R alone late) (pass : Pass)
    (entity : EntityRef) : (e.attempt late pass entity).Respects R alone := by
  intro w w' h
  have hends := hattempts pass entity w.backend w'.backend h.backend
  unfold attempt
  generalize retryingUntil e.config.retry late (e.work pass entity).run 0 0 w.backend = ended at hends ⊢
  generalize retryingUntil e.config.retry late (e.work pass entity).run 0 0 w'.backend = ended' at hends ⊢
  obtain ⟨answer, backend⟩ := ended
  obtain ⟨answer', backend'⟩ := ended'
  rcases hends with ⟨halone, hword | hword⟩ | ⟨hsame, hrelated⟩
  · cases hword
    exact .inl ⟨halone, _, rfl⟩
  · cases hword
    exact .inr (.inl ⟨halone, _, rfl⟩)
  · cases hsame
    have halike : World.Alike R { w with backend } { w' with backend := backend' } :=
      ⟨hrelated, h.tracker, h.received⟩
    cases answer with
    | ok outcome => exact .inr (.inr (.ok _ halike))
    | error cause =>
        cases cause with
        | failure error => exact .inr (.inr (.ok _ halike))
        | calendar => exact .inr (.inr (.calendar halike))
        | word => exact .inr (.inr (.word halike))

theorem respects_visit {late : Nat → Bool}
    (hattempts : late 0 = false → e.AttemptsAlike R alone fun repetition => late (repetition + 1)) (pass : Pass)
    (tally : Tally) (entity : EntityRef) : (e.visit late pass tally entity).Respects R alone := by
  unfold visit
  split
  · exact Running.respects_pure _
  · rename_i hintime
    refine Running.respects_within _ (Running.respects_within _ ?_)
    have hattempt := respects_attempt (hattempts (Bool.eq_false_iff.2 hintime)) pass entity
    refine Running.respects_bind hattempt fun result => ?_
    refine Running.respects_bind (Running.respects_track _) fun _ => ?_
    cases result with
    | ok outcome => exact Running.respects_pure _
    | error error => exact Running.respects_pure _

section

variable {clock : Clock} (hattempts : ∀ pass place, e.late clock pass place 0 = false →
  e.AttemptsAlike R alone fun repetition => e.late clock pass place (repetition + 1)) (hlistings : ListingsAlike R)

include hattempts in
theorem respects_runPass (crew : Crew) (pass : Pass) (targets : List EntityRef) :
    (e.runPass clock crew pass targets).Respects R alone := by
  refine Running.respects_bind (Running.respects_track _) fun _ => ?_
  split
  · exact Running.respects_foldlM (fun tally (target : EntityRef × Nat) =>
      respects_visit (hattempts pass target.2) pass tally target.1) _ {}
  · refine Running.respects_bind (Running.respects_foldlM (fun soFar t => ?_) _ _) fun _ => Running.respects_pure _
    exact Running.respects_bind (Running.respects_onThread _ (respects_visit (hattempts pass t.2) pass {} _))
      fun _ => Running.respects_pure _

include hlistings in
theorem respects_targets (pass : Pass) : (targets pass).Respects R alone := by
  refine Running.respects_within _ ?_
  cases pass with
  | suppliers =>
      exact Running.respects_bind (Running.respects_enumerate (fun _ => rfl) hlistings.suppliers _) fun _ =>
        Running.respects_pure _
  | parts =>
      exact Running.respects_bind (Running.respects_enumerate (fun _ => rfl) hlistings.parts _) fun _ =>
        Running.respects_pure _
  | recommendations => exact Running.respects_enumerate_view (fun _ => rfl) hlistings.partRisks _

include hattempts hlistings in
theorem respects_passIf (crew : Crew) (wanted : Bool) (pass : Pass) (add : RunSummary → Tally → RunSummary)
    (summary : RunSummary) : (e.passIf clock crew wanted pass add summary).Respects R alone := by
  unfold passIf
  split
  · refine Running.respects_bind (respects_targets hlistings pass) fun targets => ?_
    exact Running.respects_bind (respects_runPass hattempts crew pass targets) fun _ => Running.respects_pure _
  · exact Running.respects_pure _

include hlistings in
theorem respects_dispatchIf (wanted : Bool) (sink : Sink) (summary : RunSummary) :
    (e.dispatchIf wanted sink summary).Respects R alone := by
  unfold dispatchIf
  split
  · refine Running.respects_bind (Running.respects_within _ ?_) fun _ => Running.respects_pure _
    refine Running.respects_bind (Running.respects_enumerate (fun _ => rfl) hlistings.alerts _) fun alerts => ?_
    split
    · exact Running.respects_calendar
    · refine Running.respects_bind (Running.respects_modify fun w w' h => ?_) fun _ => Running.respects_pure _
      exact ⟨h.backend, h.tracker, by rw [h.received]⟩
  · exact Running.respects_pure _

include hattempts hlistings in
/-- A run respects what its listings and the repeated work on every entity respect. -/
theorem respects_run (crew : Crew) (sink : Sink) (options : RunOptions) :
    (e.runTimed clock crew sink options).Respects R alone := by
  unfold runTimed
  split
  · refine Running.respects_bind (respects_passIf hattempts hlistings _ _ _ _ _) fun summary => ?_
    refine Running.respects_bind (respects_passIf hattempts hlistings _ _ _ _ _) fun summary => ?_
    refine Running.respects_bind (respects_passIf hattempts hlistings _ _ _ _ _) fun summary => ?_
    exact Running.respects_bind (respects_dispatchIf hlistings _ _ _) fun _ => Running.respects_pure _
  · exact Running.respects_calendar

end

/-- Where neither can come to the end of the numbers alone, runs end alike. -/
theorem run_ends_alike (hattempts : ∀ late, e.AttemptsAlike R False late) (hlistings : ListingsAlike R)
    (clock : Clock) (crew : Crew) (sink : Sink) (options : RunOptions) {w w' : World} (h : w.Alike R w') :
    Running.EndAlike R (e.runTimed clock crew sink options w) (e.runTimed clock crew sink options w') := by
  have hrun : (e.runTimed clock crew sink options).Respects R False :=
    respects_run (fun _ _ _ => hattempts _) hlistings crew sink options
  rcases hrun w w' h with hbreaks | hbreaks | hends
  · exact hbreaks.1.elim
  · exact hbreaks.1.elim
  · exact hends

end Engine

end SupplyRisk
