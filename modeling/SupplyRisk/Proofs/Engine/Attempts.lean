import Mathlib.Data.Nat.Count
import SupplyRisk.Engine.Retry

/-!
# Where repetition stops

Work that is called again and again has an outcome for every number of calls, whether or not it is called so often.
`RetryPolicy.StopsAt` says of a stream of outcomes at which of them repetition may stop.  Before the first such place
every outcome is charged to one of the two budgets (`budgets_before`), so the place lies within both budgets together,
and that is where repeated work stops, in whatever order the failures come (`retrying_stops_first`).
-/

namespace SupplyRisk

variable {σ α : Type}

/-! ## One step of repetition -/

section Equations

variable {p : RetryPolicy} {late : Nat → Bool} {work : σ → Except Halt α × σ} {conflicts transients : Nat} {s s' : σ}
  {e : RiskError}

theorem retryingUntil_again (hwork : work s = (.error (.failure e), s'))
    (hallows : p.allows e conflicts transients = true) (hintime : ¬ late (conflicts + transients) = true) :
    retryingUntil p late work conflicts transients s =
      if e.isConflict then retryingUntil p late work (conflicts + 1) transients s'
      else retryingUntil p late work conflicts (transients + 1) s' := by
  rw [retryingUntil, hwork]
  simp only [dif_pos hallows, if_neg hintime]

/-- Work that may be repeated when the time is over fails for that. -/
theorem retryingUntil_late (hwork : work s = (.error (.failure e), s'))
    (hallows : p.allows e conflicts transients = true) (hlate : late (conflicts + transients) = true) :
    retryingUntil p late work conflicts transients s = (.error (.failure .timeout), s') := by
  rw [retryingUntil, hwork]
  simp only [dif_pos hallows, if_pos hlate]

theorem retryingUntil_refused (hwork : work s = (.error (.failure e), s'))
    (hrefuses : ¬ p.allows e conflicts transients = true) :
    retryingUntil p late work conflicts transients s = work s := by
  rw [retryingUntil, hwork]
  simp only [dif_neg hrefuses]

/-- Work that does not fail is not repeated. -/
theorem retryingUntil_done (hdone : ∀ e s', work s ≠ (.error (.failure e), s')) :
    retryingUntil p late work conflicts transients s = work s := by
  rw [retryingUntil]
  split
  · rename_i e s' hwork
    exact absurd hwork (hdone e s')
  · rfl

theorem retrying_again (hwork : work s = (.error (.failure e), s'))
    (hallows : p.allows e conflicts transients = true) :
    retrying p work conflicts transients s =
      if e.isConflict then retrying p work (conflicts + 1) transients s'
      else retrying p work conflicts (transients + 1) s' := retryingUntil_again hwork hallows Bool.false_ne_true

end Equations

namespace Attempt

/-- The attempt ended in a conflict. -/
def conflicted : Except Halt α → Bool
  | .error (.failure e) => e.isConflict
  | _ => false

/-- The attempt ended in a transient failure. -/
def interrupted : Except Halt α → Bool
  | .error (.failure e) => e.isTransient
  | _ => false

/-- The conflicts among the first outcomes. -/
def conflicts (outcomes : Nat → Except Halt α) (n : Nat) : Nat :=
  Nat.count (fun k => conflicted (outcomes k) = true) n

/-- The transient failures among the first outcomes. -/
def transients (outcomes : Nat → Except Halt α) (n : Nat) : Nat :=
  Nat.count (fun k => interrupted (outcomes k) = true) n

/-- The state that work finds after so many calls, one upon the other. -/
def stateAfter (work : σ → Except Halt α × σ) (s : σ) : Nat → σ
  | 0 => s
  | n + 1 => (work (stateAfter work s n)).2

end Attempt

open Attempt

/-- Repetition may stop at an outcome: it is a success or an end of the calendar or of the numbers, an error that is
not repeated or not while repetition is disabled, or a conflict or transient failure after exactly as many of its kind
as are repeated. -/
def RetryPolicy.StopsAt (p : RetryPolicy) (outcomes : Nat → Except Halt α) (n : Nat) : Prop :=
  match outcomes n with
  | .ok _ => True
  | .error .calendar | .error .word => True
  | .error (.failure e) =>
      p.enabled = false ∨ e.isRetryable = false ∨
        (e.isConflict = true ∧ conflicts outcomes n = p.maxRetries.toNat) ∨
        (e.isTransient = true ∧ transients outcomes n = p.transientRetries.toNat)

section Streams

variable {p : RetryPolicy} {outcomes : Nat → Except Halt α} {n : Nat} {e : RiskError}

theorem conflicts_succ (houtcome : outcomes n = .error (.failure e)) :
    conflicts outcomes (n + 1) = conflicts outcomes n + e.isConflict.toNat := by
  unfold conflicts
  rw [Nat.count_succ, houtcome]
  cases hkind : e.isConflict <;> simp [conflicted, hkind]

theorem transients_succ (houtcome : outcomes n = .error (.failure e)) :
    transients outcomes (n + 1) = transients outcomes n + e.isTransient.toNat := by
  unfold transients
  rw [Nat.count_succ, houtcome]
  cases hkind : e.isTransient <;> simp [interrupted, hkind]

/-- An outcome that does not stop repetition is a failure, of one of two kinds, within its budget. -/
theorem of_not_stopsAt (hconflicts : conflicts outcomes n ≤ p.maxRetries.toNat)
    (htransients : transients outcomes n ≤ p.transientRetries.toNat) (hgoes : ¬ p.StopsAt outcomes n) :
    ∃ e, outcomes n = .error (.failure e) ∧ p.allows e (conflicts outcomes n) (transients outcomes n) = true ∧
      (e.isConflict = true ∧ e.isTransient = false ∧ conflicts outcomes n < p.maxRetries.toNat ∨
        e.isConflict = false ∧ e.isTransient = true ∧ transients outcomes n < p.transientRetries.toNat) := by
  unfold RetryPolicy.StopsAt at hgoes
  split at hgoes
  · exact absurd trivial hgoes
  · exact absurd trivial hgoes
  · exact absurd trivial hgoes
  · rename_i e houtcome
    simp only [not_or, not_and, Bool.not_eq_false] at hgoes
    obtain ⟨henabled, hretryable, hconflict, htransient⟩ := hgoes
    refine ⟨e, houtcome, ?_⟩
    cases e with
    | conflict entity expected found =>
        have hbudget : conflicts outcomes n < p.maxRetries.toNat := by
          have := hconflict rfl
          omega
        exact ⟨by simp [RetryPolicy.allows, henabled, hbudget], .inl ⟨rfl, rfl, hbudget⟩⟩
    | transient message =>
        have hbudget : transients outcomes n < p.transientRetries.toNat := by
          have := htransient rfl
          omega
        exact ⟨by simp [RetryPolicy.allows, henabled, hbudget], .inr ⟨rfl, rfl, hbudget⟩⟩
    | _ => cases hretryable

/-- As long as nothing stops it, repetition keeps within both budgets, and every outcome is charged to one of them. -/
theorem budgets_before (hgoes : ∀ k < n, ¬ p.StopsAt outcomes k) :
    conflicts outcomes n ≤ p.maxRetries.toNat ∧ transients outcomes n ≤ p.transientRetries.toNat ∧
      conflicts outcomes n + transients outcomes n = n := by
  induction n with
  | zero => simp [conflicts, transients]
  | succ n ih =>
      obtain ⟨hconflicts, htransients, hsum⟩ := ih fun k hk => hgoes k (by omega)
      obtain ⟨e, houtcome, -, hkind⟩ := of_not_stopsAt hconflicts htransients (hgoes n (by omega))
      rw [conflicts_succ houtcome, transients_succ houtcome]
      rcases hkind with ⟨hconflict, hother, hbudget⟩ | ⟨hother, htransient, hbudget⟩
      · rw [hconflict, hother, Bool.toNat_true, Bool.toNat_false]
        omega
      · rw [hother, htransient, Bool.toNat_true, Bool.toNat_false]
        omega

/-- There is a first outcome that stops repetition, since the budgets are used up otherwise. -/
theorem exists_first_stop (p : RetryPolicy) (outcomes : Nat → Except Halt α) :
    ∃ n, p.StopsAt outcomes n ∧ ∀ k < n, ¬ p.StopsAt outcomes k := by
  classical
  have hsome : ∃ n, p.StopsAt outcomes n := by
    by_contra hnone
    obtain ⟨hconflicts, htransients, hsum⟩ :=
      budgets_before (n := p.maxRetries.toNat + p.transientRetries.toNat + 1) fun k _ hk => hnone ⟨k, hk⟩
    omega
  exact ⟨Nat.find hsome, Nat.find_spec hsome, fun k hk => Nat.find_min hsome hk⟩

end Streams

section Loop

variable {p : RetryPolicy} {outcomes : Nat → Except Halt α} {work : σ → Except Halt α × σ} {s : σ} {n : Nat}

theorem work_stateAfter (hstream : ∀ k, (work (stateAfter work s k)).1 = outcomes k) (n : Nat) :
    work (stateAfter work s n) = (outcomes n, stateAfter work s (n + 1)) :=
  Prod.ext (hstream n) rfl

/-- Up to the first stop repetition goes on, with the outcomes so far charged to its counters. -/
theorem retrying_goes_on (hstream : ∀ k, (work (stateAfter work s k)).1 = outcomes k)
    (hgoes : ∀ k < n, ¬ p.StopsAt outcomes k) :
    retrying p work 0 0 s = retrying p work (conflicts outcomes n) (transients outcomes n) (stateAfter work s n) := by
  induction n with
  | zero => simp [conflicts, transients, stateAfter]
  | succ n ih =>
      have hbefore : ∀ k < n, ¬ p.StopsAt outcomes k := fun k hk => hgoes k (by omega)
      obtain ⟨hconflicts, htransients, -⟩ := budgets_before hbefore
      obtain ⟨e, houtcome, hallows, hkind⟩ := of_not_stopsAt hconflicts htransients (hgoes n (by omega))
      have hwork := work_stateAfter hstream n
      rw [houtcome] at hwork
      rw [ih hbefore, retrying_again hwork hallows, conflicts_succ houtcome, transients_succ houtcome]
      rcases hkind with ⟨hconflict, hother, -⟩ | ⟨hother, htransient, -⟩
      · simp [hconflict, hother]
      · simp [hother, htransient]

/-- Where it may stop, repetition stops. -/
theorem retrying_of_stopsAt (hstream : ∀ k, (work (stateAfter work s k)).1 = outcomes k)
    (hstops : p.StopsAt outcomes n) :
    retrying p work (conflicts outcomes n) (transients outcomes n) (stateAfter work s n) =
      work (stateAfter work s n) := by
  have hwork := work_stateAfter hstream n
  unfold RetryPolicy.StopsAt at hstops
  split at hstops
  · rename_i a houtcome
    rw [houtcome] at hwork
    exact retryingUntil_done fun e s' h => by simp [hwork] at h
  · rename_i houtcome
    rw [houtcome] at hwork
    exact retryingUntil_done fun e s' h => by simp [hwork] at h
  · rename_i houtcome
    rw [houtcome] at hwork
    exact retryingUntil_done fun e s' h => by simp [hwork] at h
  · rename_i e houtcome
    rw [houtcome] at hwork
    refine retryingUntil_refused hwork fun hallows => ?_
    -- The counters are the numbers before this outcome, so a used-up budget refuses it.
    cases e <;> simp_all [RetryPolicy.allows, RiskError.isRetryable, RiskError.isConflict, RiskError.isTransient]

end Loop

/-- **Where repetition stops.**  For every stream of outcomes there is a first one at which repetition may stop, and it
lies within the two budgets together.  All outcomes before it are conflicts or transient failures, each kind within its
own budget.  Repeated work makes that many calls and one more, whatever work has these outcomes: it returns the
outcome of the last call and leaves the state that this call left. -/
theorem retrying_stops_first (p : RetryPolicy) (outcomes : Nat → Except Halt α) :
    ∃ n, n ≤ p.maxRetries.toNat + p.transientRetries.toNat ∧
      (p.StopsAt outcomes n ∧ ∀ k < n, ¬ p.StopsAt outcomes k) ∧
      (conflicts outcomes n ≤ p.maxRetries.toNat ∧ transients outcomes n ≤ p.transientRetries.toNat ∧
        conflicts outcomes n + transients outcomes n = n) ∧
      retrying p (fun calls => (outcomes calls, calls + 1)) 0 0 0 = (outcomes n, n + 1) ∧
      ∀ {σ : Type} (work : σ → Except Halt α × σ) (s : σ),
        (∀ k, (work (stateAfter work s k)).1 = outcomes k) →
          retrying p work 0 0 s = (outcomes n, stateAfter work s (n + 1)) := by
  obtain ⟨n, hstops, hfirst⟩ := exists_first_stop p outcomes
  have hbudgets := budgets_before hfirst
  have hends {σ : Type} (work : σ → Except Halt α × σ) (s : σ)
      (hstream : ∀ k, (work (stateAfter work s k)).1 = outcomes k) :
      retrying p work 0 0 s = (outcomes n, stateAfter work s (n + 1)) := by
    rw [retrying_goes_on hstream hfirst, retrying_of_stopsAt hstream hstops, work_stateAfter hstream]
  -- Where the state is the number of calls, the state after them is their number.
  have hcalls (k : Nat) : stateAfter (fun calls => (outcomes calls, calls + 1)) 0 k = k := by
    induction k with
    | zero => rfl
    | succ k ih => rw [stateAfter, ih]
  refine ⟨n, by omega, ⟨hstops, hfirst⟩, hbudgets, ?_, hends⟩
  rw [hends _ 0 fun k => by rw [hcalls], hcalls]

/-- Work that meets transient failures and conflicts by turns. -/
def unsteadyWork (interrupts : Bool) : Except Halt Unit × Bool :=
  (.error (.failure (if interrupts then .transient "busy" else .conflict (.part ⟨10⟩) 1 2)), !interrupts)

/-- The outcomes of unsteady work, from a transient failure on. -/
def turns (k : Nat) : Except Halt Unit := (unsteadyWork (k % 2 = 0)).1

/-- With one transient failure and three conflicts to be repeated, the second transient failure is returned by the
third call. -/
theorem second_transient_failure_is_final :
    (∀ k, (unsteadyWork (stateAfter unsteadyWork true k)).1 = turns k) ∧
      retrying {} unsteadyWork 0 0 true = (.error (.failure (.transient "busy")), false) := by
  have hstate (k : Nat) : stateAfter unsteadyWork true k = decide (k % 2 = 0) := by
    induction k with
    | zero => rfl
    | succ k ih =>
        rw [stateAfter, ih]
        by_cases heven : k % 2 = 0
        · simp [unsteadyWork, heven]
          omega
        · simp [unsteadyWork, heven]
          omega
  have hstream (k : Nat) : (unsteadyWork (stateAfter unsteadyWork true k)).1 = turns k := by
    rw [hstate, turns]
  obtain ⟨n, -, ⟨hstops, hfirst⟩, -, -, hends⟩ := retrying_stops_first {} turns
  have hgoes : ¬ ({} : RetryPolicy).StopsAt turns 0 ∧ ¬ ({} : RetryPolicy).StopsAt turns 1 := by
    constructor
    · rintro (h | h | ⟨h, -⟩ | ⟨-, h⟩) <;> revert h <;> decide
    · rintro (h | h | ⟨-, h⟩ | ⟨h, -⟩) <;> revert h <;> decide
  have hstop : ({} : RetryPolicy).StopsAt turns 2 := .inr (.inr (.inr (by decide)))
  have hle : n ≤ 2 := Nat.le_of_not_lt fun hlt => hfirst 2 hlt hstop
  have hn : n = 2 := by
    by_contra hne
    obtain rfl | rfl : n = 0 ∨ n = 1 := by omega
    · exact hgoes.1 hstops
    · exact hgoes.2 hstops
  subst hn
  refine ⟨hstream, ?_⟩
  rw [hends unsteadyWork true hstream, hstate]
  rfl

end SupplyRisk
