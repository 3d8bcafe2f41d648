import SupplyRisk.Engine.Tracker

/-!
# Well-nested scopes

A guard keeps the whole context that was in force when its scope was opened, though the scope changes one part of it.
So it brings back the right one only if all scopes that were opened later have been closed before.  Steps are `Nested`
when they close what they open in that order; then each scope that is closed gives back the context in which it was
opened (`Nested.opens`, `Nested.leave_restores`), and together they leave the context and all guards as they were
(`Nested.play_restores`).
-/

namespace SupplyRisk

/-- What a guard is kept for. -/
inductive Scope where
  | phase (phase : Phase)
  | entity (entity : EntityRef)
deriving DecidableEq

/-- The context within a scope. -/
def Scope.change : Scope → Context → Context
  | .phase p => (·.inPhase p)
  | .entity z => (·.onEntity z)

/-- Uses of a tracker, step by step. -/
inductive TrackerStep where
  | enter (scope : Scope)
  | leave
  | progress (processed total : UInt64)
  | increment
deriving DecidableEq

/-- Whether the step is about the progress, which all threads share, and not about the context of its own thread. -/
def TrackerStep.counts : TrackerStep → Bool
  | .progress _ _ | .increment => true
  | .enter _ | .leave => false

namespace GuardedTracker

def step (g : GuardedTracker) : TrackerStep → GuardedTracker
  | .enter scope => g.enter scope.change
  | .leave => g.leave
  | .progress processed total => { g with tracker := g.tracker.setProgress processed total }
  | .increment => { g with tracker := g.tracker.increment }

/-- Takes steps one after the other. -/
def play (g : GuardedTracker) (steps : List TrackerStep) : GuardedTracker := steps.foldl step g

theorem play_append (g : GuardedTracker) (steps more : List TrackerStep) :
    g.play (steps ++ more) = (g.play steps).play more := List.foldl_append

/-- Closing a scope does not touch the counters. -/
theorem leave_tracker (g : GuardedTracker) : ∃ context, g.leave.tracker = { g.tracker with context } := by
  obtain ⟨tracker, saved⟩ := g
  cases saved with
  | nil => exact ⟨tracker.context, rfl⟩
  | cons context saved => exact ⟨context, rfl⟩

/-- What another thread sees of some steps: the counters change, and the context and the guards are its own. -/
theorem play_counts (g other : GuardedTracker) (hprocessed : other.tracker.processed = g.tracker.processed)
    (htotal : other.tracker.total = g.tracker.total) (steps : List TrackerStep) :
    other.play (steps.filter (·.counts)) =
      { other with tracker := { (g.play steps).tracker with context := other.tracker.context } } := by
  induction steps generalizing g other with
  | nil =>
      obtain ⟨⟨context, processed, total⟩, saved⟩ := other
      obtain rfl : processed = g.tracker.processed := hprocessed
      obtain rfl : total = g.tracker.total := htotal
      rfl
  | cons s steps ih =>
      cases s with
      | enter scope => exact ih (g.step (.enter scope)) other hprocessed htotal
      | leave =>
          obtain ⟨context, hleave⟩ := g.leave_tracker
          exact ih g.leave other (by rw [hleave, hprocessed]) (by rw [hleave, htotal])
      | progress processed total =>
          exact ih (g.step (.progress processed total)) (other.step (.progress processed total)) rfl rfl
      | increment => exact ih (g.step .increment) (other.step .increment) (congrArg (· + 1) hprocessed) htotal

end GuardedTracker

/-- Well-nested steps: a scope is closed after all scopes that are opened within it. -/
inductive Nested : List TrackerStep → Prop
  | done : Nested []
  | progress {rest : List TrackerStep} (processed total : UInt64) (hrest : Nested rest) :
      Nested (.progress processed total :: rest)
  | increment {rest : List TrackerStep} (hrest : Nested rest) : Nested (.increment :: rest)
  | scope {inside rest : List TrackerStep} (scope : Scope) (hinside : Nested inside) (hrest : Nested rest) :
      Nested (.enter scope :: inside ++ .leave :: rest)

namespace Nested

theorem filter_counts (steps : List TrackerStep) : Nested (steps.filter (·.counts)) := by
  induction steps with
  | nil => exact .done
  | cons s steps ih =>
      cases s with
      | enter scope => exact ih
      | leave => exact ih
      | progress processed total => exact .progress processed total ih
      | increment => exact .increment ih

theorem append {steps more : List TrackerStep} (hsteps : Nested steps) (hmore : Nested more) :
    Nested (steps ++ more) := by
  induction hsteps with
  | done => exact hmore
  | progress processed total hrest ih => exact .progress processed total ih
  | increment hrest ih => exact .increment ih
  | scope scope hinside hrest ihinside ihrest =>
      rw [List.append_assoc]
      exact .scope scope hinside ihrest

/-- Well-nested steps leave the context and the guards as they find them. -/
theorem play_restores {steps : List TrackerStep} (hsteps : Nested steps) (g : GuardedTracker) :
    (g.play steps).tracker.context = g.tracker.context ∧ (g.play steps).saved = g.saved := by
  induction hsteps generalizing g with
  | done => exact ⟨rfl, rfl⟩
  | progress processed total hrest ih => exact ih (g.step (.progress processed total))
  | increment hrest ih => exact ih (g.step .increment)
  | @scope inside rest scope hinside hrest ihinside ihrest =>
      -- The guard on top when the scope is closed is the one of this scope, since those within it are gone.
      have hguard : ((g.enter scope.change).play inside).saved = g.tracker.context :: g.saved := (ihinside _).2
      have hleave : ((g.enter scope.change).play inside).leave.tracker.context = g.tracker.context ∧
          ((g.enter scope.change).play inside).leave.saved = g.saved := by
        simp only [GuardedTracker.leave, hguard, and_self]
      obtain ⟨hcontext, hsaved⟩ := ihrest ((g.enter scope.change).play inside).leave
      rw [GuardedTracker.play_append]
      exact ⟨hcontext.trans hleave.1, hsaved.trans hleave.2⟩

/-- When a scope is closed, the context in which it was opened is back. -/
theorem leave_restores {inside : List TrackerStep} (hinside : Nested inside) (before : List TrackerStep) (scope : Scope)
    (g : GuardedTracker) :
    (g.play (before ++ .enter scope :: inside ++ [.leave])).tracker.context = (g.play before).tracker.context := by
  rw [List.append_assoc, GuardedTracker.play_append]
  exact ((Nested.scope scope hinside .done).play_restores (g.play before)).1

/-- The last scope that these steps leave open; what has come since it was opened is well-nested. -/
def Opens (earlier : List TrackerStep) : Prop :=
  ∃ before scope inside, earlier = before ++ .enter scope :: inside ∧ Nested inside

theorem Opens.append_left {earlier : List TrackerStep} (hopens : Opens earlier) (first : List TrackerStep) :
    Opens (first ++ earlier) := by
  obtain ⟨before, scope, inside, rfl, hinside⟩ := hopens
  exact ⟨first ++ before, scope, inside, (List.append_assoc _ _ _).symm, hinside⟩

/-- A step that closes no scope moves on to what is closed after it. -/
theorem Opens.of_cons {s : TrackerStep} {steps earlier later : List TrackerStep} (hs : s ≠ .leave)
    (hopens : ∀ {earlier later}, steps = earlier ++ .leave :: later → Opens earlier)
    (hleave : s :: steps = earlier ++ .leave :: later) : Opens earlier := by
  cases earlier with
  | nil => exact absurd (List.cons.inj hleave).1 hs
  | cons t earlier =>
      obtain ⟨rfl, htail⟩ := List.cons.inj hleave
      exact (hopens htail).append_left [s]

/-- In well-nested steps, whatever is closed has been opened, and what came in between is well-nested. -/
theorem opens {steps : List TrackerStep} (hsteps : Nested steps) {earlier later : List TrackerStep}
    (hleave : steps = earlier ++ .leave :: later) : Opens earlier := by
  induction hsteps generalizing earlier later with
  | done => exact absurd hleave.symm (List.append_ne_nil_of_right_ne_nil _ (List.cons_ne_nil _ _))
  | progress processed total hrest ih => exact .of_cons TrackerStep.noConfusion ih hleave
  | increment hrest ih => exact .of_cons TrackerStep.noConfusion ih hleave
  | @scope inside rest scope hinside hrest ihinside ihrest =>
      cases earlier with
      | nil => exact nomatch (List.cons.inj hleave).1
      | cons s earlier =>
          obtain ⟨rfl, htail⟩ := List.cons.inj hleave
          -- What is closed is this scope, one after it, or one within it.
          rcases List.append_eq_append_iff.1 htail with ⟨more, rfl, hmore⟩ | ⟨more, rfl, hmore⟩
          · cases more with
            | nil => exact ⟨[], scope, inside, by rw [List.append_nil, List.nil_append], hinside⟩
            | cons s more =>
                obtain ⟨rfl, hrest'⟩ := List.cons.inj hmore
                have hlater := (ihrest hrest').append_left (.enter scope :: inside ++ [.leave])
                rwa [List.append_assoc] at hlater
          · cases more with
            | nil => exact ⟨[], scope, earlier, rfl, by rwa [List.append_nil] at hinside⟩
            | cons s more =>
                obtain ⟨rfl, -⟩ := List.cons.inj hmore
                exact (ihinside rfl).append_left [.enter scope]

end Nested

end SupplyRisk
