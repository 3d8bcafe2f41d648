import SupplyRisk.Proofs.Script

/-!
# Scripts that play at the same time

The store performs each call of a script as a whole, but between two calls of one script any calls of other scripts
may come.  A `ScriptPool` has any number of scripts and plays the next call of whichever the schedule names
(`ScriptPool.step`, `ScriptPool.run`).  Among the schedules are those that play one script after the other
(`ScriptPool.exists_schedule`).
-/

namespace SupplyRisk

/-- Scripts that play on one store, one call at a time. -/
structure ScriptPool where
  backend : FaultyStore
  scripts : List (Script Unit)

namespace ScriptPool

def store (p : ScriptPool) : Store := p.backend.store

/-- Plays the next call of a script; one that has ended has none. -/
def step (p : ScriptPool) (i : Nat) : ScriptPool :=
  match p.scripts[i]? with
  | some (.call c next) =>
      if p.backend.hasRoom c then ⟨(p.backend.perform c).2, p.scripts.set i (next (p.backend.perform c).1)⟩
      else ⟨p.backend.giveUp c, p.scripts.set i (.stop .word)⟩
  | _ => p

/-- Plays calls in the order of a schedule, which tells for each of them whose it is. -/
def run (p : ScriptPool) (schedule : List Nat) : ScriptPool := schedule.foldl step p

/-- The call that a step makes, if it makes one. -/
def called? (p : ScriptPool) (i : Nat) : Option StoreCall :=
  match p.scripts[i]? with
  | some (.call c _) => if p.backend.hasRoom c then some c else none
  | _ => none

/-- The calls that are made in a schedule. -/
def calls (p : ScriptPool) : List Nat → List StoreCall
  | [] => []
  | i :: schedule => (p.called? i).toList ++ (p.step i).calls schedule

variable {p : ScriptPool} {i : Nat}

theorem step_of_call {c : StoreCall} {next : Except RiskError c.Answer → Script Unit}
    (hnext : p.scripts[i]? = some (.call c next)) (hroom : p.backend.hasRoom c = true) :
    p.step i = ⟨(p.backend.perform c).2, p.scripts.set i (next (p.backend.perform c).1)⟩ := by
  rw [step, hnext]
  exact if_pos hroom

theorem step_of_full {c : StoreCall} {next : Except RiskError c.Answer → Script Unit}
    (hnext : p.scripts[i]? = some (.call c next)) (hfull : ¬ p.backend.hasRoom c = true) :
    p.step i = ⟨p.backend.giveUp c, p.scripts.set i (.stop .word)⟩ := by
  rw [step, hnext]
  exact if_neg hfull

/-- A step does nothing, or it makes a call or gives it up. -/
theorem step_cases (p : ScriptPool) (i : Nat) :
    (p.step i = p ∧ p.called? i = none) ∨
      (∃ c next, p.scripts[i]? = some (.call c next) ∧ p.backend.hasRoom c = true ∧ p.called? i = some c ∧
        p.step i = ⟨(p.backend.perform c).2, p.scripts.set i (next (p.backend.perform c).1)⟩) ∨
      ∃ c next, p.scripts[i]? = some (.call c next) ∧ ¬ p.backend.hasRoom c = true ∧ p.called? i = none ∧
        p.step i = ⟨p.backend.giveUp c, p.scripts.set i (.stop .word)⟩ := by
  unfold called?
  cases hscript : p.scripts[i]? with
  | none => exact .inl ⟨by rw [step, hscript], rfl⟩
  | some x =>
      cases x with
      | done a => exact .inl ⟨by rw [step, hscript], rfl⟩
      | stop cause => exact .inl ⟨by rw [step, hscript], rfl⟩
      | call c next =>
          by_cases hroom : p.backend.hasRoom c = true
          · exact .inr (.inl ⟨c, next, rfl, hroom, if_pos hroom, step_of_call hscript hroom⟩)
          · exact .inr (.inr ⟨c, next, rfl, hroom, if_neg hroom, step_of_full hscript hroom⟩)

theorem run_append (p : ScriptPool) (before after : List Nat) : p.run (before ++ after) = (p.run before).run after :=
  List.foldl_append

/-- What is left of the scripts of a pool makes no other calls, and neither does a step. -/
theorem only_step {ok : StoreCall → Prop} (honly : ∀ x ∈ p.scripts, x.Only ok) (i : Nat) :
    (∀ x ∈ (p.step i).scripts, x.Only ok) ∧ ∀ c ∈ (p.called? i).toList, ok c := by
  rcases p.step_cases i with ⟨hstep, hcalled⟩ | ⟨c, next, hscript, -, hcalled, hstep⟩ |
    ⟨c, next, hscript, -, hcalled, hstep⟩
  · rw [hstep, hcalled]
    exact ⟨honly, fun c hc => nomatch hc⟩
  · have hnext := honly _ (List.mem_of_getElem? hscript)
    rw [hstep, hcalled]
    refine ⟨fun x hx => ?_, fun c' hc' => ?_⟩
    · rcases List.mem_or_eq_of_mem_set hx with hx | rfl
      · exact honly x hx
      · exact hnext.2 _
    · obtain rfl : c' = c := List.mem_singleton.1 hc'
      exact hnext.1
  · rw [hstep, hcalled]
    refine ⟨fun x hx => ?_, fun c hc => nomatch hc⟩
    rcases List.mem_or_eq_of_mem_set hx with hx | rfl
    · exact honly x hx
    · trivial

theorem only_run {ok : StoreCall → Prop} (honly : ∀ x ∈ p.scripts, x.Only ok) (schedule : List Nat) :
    ∀ x ∈ (p.run schedule).scripts, x.Only ok := by
  induction schedule generalizing p with
  | nil => exact honly
  | cons i schedule ih => exact ih (only_step honly i).1

theorem only_calls {ok : StoreCall → Prop} (honly : ∀ x ∈ p.scripts, x.Only ok) (schedule : List Nat) :
    ∀ c ∈ p.calls schedule, ok c := by
  induction schedule generalizing p with
  | nil => exact fun c hc => nomatch hc
  | cons i schedule ih =>
      intro c hc
      obtain ⟨hscripts, hcalled⟩ := only_step honly i
      rcases List.mem_append.1 hc with hc | hc
      · exact hcalled c hc
      · exact ih hscripts c hc

/-! ## One script after the other -/

/-- A script that is played by itself does what it does without a pool. -/
theorem run_replicate {x : Script Unit} (hx : p.scripts[i]? = some x) :
    ∃ n ended, p.run (List.replicate n i) = ⟨(x.run p.backend).2, p.scripts.set i ended⟩ := by
  induction x generalizing p with
  | done a =>
      have hlt : i < p.scripts.length := (List.getElem?_eq_some_iff.1 hx).1
      exact ⟨0, p.scripts[i], by rw [List.set_getElem_self]; rfl⟩
  | stop cause =>
      have hlt : i < p.scripts.length := (List.getElem?_eq_some_iff.1 hx).1
      exact ⟨0, p.scripts[i], by rw [List.set_getElem_self]; rfl⟩
  | call c next ih =>
      have hlt : i < p.scripts.length := (List.getElem?_eq_some_iff.1 hx).1
      by_cases hroom : p.backend.hasRoom c = true
      · have hstep := step_of_call hx hroom
        obtain ⟨n, ended, hrun⟩ := ih (p.backend.perform c).1 (p := p.step i) (by
          rw [hstep]
          exact List.getElem?_set_self hlt)
        refine ⟨n + 1, ended, ?_⟩
        show (p.step i).run (List.replicate n i) = _
        rw [hrun, hstep, Script.run_call hroom, List.set_set]
      · refine ⟨1, .stop .word, ?_⟩
        show p.step i = _
        rw [step_of_full hx hroom, Script.run_call_of_full hroom]

/-- Behind scripts that have been played the others can be played one after the other. -/
theorem exists_schedule (f : FaultyStore) (ended scripts : List (Script Unit)) :
    ∃ schedule, ((⟨f, ended ++ scripts⟩ : ScriptPool).run schedule).backend =
      scripts.foldl (fun f x => (x.run f).2) f := by
  induction scripts generalizing f ended with
  | nil => exact ⟨[], rfl⟩
  | cons x scripts ih =>
      obtain ⟨n, last, hrun⟩ := run_replicate (p := ⟨f, ended ++ x :: scripts⟩) (i := ended.length) (x := x) (by simp)
      obtain ⟨schedule, hrest⟩ := ih (x.run f).2 (ended ++ [last])
      refine ⟨List.replicate n ended.length ++ schedule, ?_⟩
      have hset : (ended ++ x :: scripts).set ended.length last = ended ++ [last] ++ scripts := by simp
      rw [run_append, hrun, hset, hrest]
      rfl

end ScriptPool

end SupplyRisk
