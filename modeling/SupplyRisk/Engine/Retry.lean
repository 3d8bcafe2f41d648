import SupplyRisk.Config.Retry
import SupplyRisk.Store.Script

/-!
# Repeating work

Work is repeated while the retry policy allows it and there is time.  Conflicts and transient failures have budgets
of their own, so the repetition ends.
-/

namespace SupplyRisk

/-- Errors that a policy allows to be repeated are conflicts or transient failures within budget. -/
theorem RetryPolicy.allows_budget {p : RetryPolicy} {e : RiskError} {conflicts transients : Nat}
    (h : p.allows e conflicts transients = true) :
    (e.isConflict = true ∧ conflicts < p.maxRetries.toNat) ∨
      (e.isConflict = false ∧ transients < p.transientRetries.toNat) := by
  cases e <;> simp_all [RetryPolicy.allows, RiskError.isConflict]

/-- Does work again as long as the policy allows it and time is left, given the conflicts and transient failures so
far.  `late` says for each repetition whether the time is over before it. -/
def retryingUntil {σ α : Type} (p : RetryPolicy) (late : Nat → Bool) (work : σ → Except Halt α × σ)
    (conflicts transients : Nat) (s : σ) : Except Halt α × σ :=
  match work s with
  | (.error (.failure e), s') =>
      if h : p.allows e conflicts transients = true then
        if late (conflicts + transients) then (.error (.failure .timeout), s')
        else if e.isConflict then retryingUntil p late work (conflicts + 1) transients s'
        else retryingUntil p late work conflicts (transients + 1) s'
      else (.error (.failure e), s')
  | result => result
termination_by (p.maxRetries.toNat - conflicts) + (p.transientRetries.toNat - transients)
decreasing_by
  all_goals
    have := RetryPolicy.allows_budget h
    simp_all
    omega

/-- Does work again as long as the policy allows it. -/
def retrying {σ α : Type} (p : RetryPolicy) (work : σ → Except Halt α × σ) (conflicts transients : Nat) (s : σ) :
    Except Halt α × σ :=
  retryingUntil p (fun _ => false) work conflicts transients s

end SupplyRisk
