import SupplyRisk.Store.Script

/-!
# Playing scripts

How a script plays follows from how its parts play: `run_bind` for work in two steps, `run_ask` for one call and
`run_recover` for work whose errors are caught.  `Script.Only` bounds the calls that a script can make, whatever
the answers are; an invariant that all of them keep is kept by the script (`run_keeps`).  A script that is `Dated` never
leaves the calendar.
-/

namespace SupplyRisk

/-- Results can be compared where answers and errors can. -/
instance instDecidableEqExcept {ε α : Type} [DecidableEq ε] [DecidableEq α] : DecidableEq (Except ε α)
  | .ok a, .ok b => decidable_of_iff (a = b) (by rw [Except.ok.injEq])
  | .error e, .error e' => decidable_of_iff (e = e') (by rw [Except.error.injEq])
  | .ok _, .error _ => isFalse fun h => by cases h
  | .error _, .ok _ => isFalse fun h => by cases h

/-- What ends a program: a date has left the calendar, or a number or version its word. -/
inductive Halt.Ends : Halt → Prop
  | calendar : Ends .calendar
  | word : Ends .word

namespace Script

variable {α β : Type}

@[simp] theorem run_pure (a : α) (f : FaultyStore) : (pure a : Script α).run f = (.ok a, f) := rfl

theorem run_call {c : StoreCall} {f : FaultyStore} (hroom : f.hasRoom c = true)
    (next : Except RiskError c.Answer → Script α) :
    (call c next).run f = (next (f.perform c).1).run (f.perform c).2 := by
  rw [run, if_pos hroom]

/-- A call for which there is no number or version is not made, and neither is what comes behind it. -/
theorem run_call_of_full {c : StoreCall} {f : FaultyStore} (hfull : ¬ f.hasRoom c = true)
    (next : Except RiskError c.Answer → Script α) : (call c next).run f = (.error .word, f.giveUp c) := by
  rw [run, if_neg hfull]

/-- The second part goes on from where the first one ended, and is not played when the first one stops. -/
theorem run_bind (x : Script α) (g : α → Script β) (f : FaultyStore) :
    (x >>= g).run f =
      match x.run f with
      | (.ok a, f') => (g a).run f'
      | (.error cause, f') => (.error cause, f') := by
  -- The first part is a tree of calls; the store moves along with them.
  induction x generalizing f with
  | done a => rfl
  | stop cause => rfl
  | call c next ih =>
      show (call c fun answer => (next answer).bind g).run f = _
      by_cases hroom : f.hasRoom c = true
      · rw [run_call hroom, run_call hroom]
        exact ih (f.perform c).1 (f.perform c).2
      · rw [run_call_of_full hroom, run_call_of_full hroom]

theorem run_bind_of_ok {x : Script α} {f f' : FaultyStore} {a : α} (hx : x.run f = (.ok a, f'))
    (g : α → Script β) : (x >>= g).run f = (g a).run f' := by
  rw [run_bind, hx]

theorem run_bind_of_error {x : Script α} {f f' : FaultyStore} {cause : Halt}
    (hx : x.run f = (.error cause, f')) (g : α → Script β) :
    (x >>= g).run f = (.error cause, f') := by
  rw [run_bind, hx]

/-- What work in two steps leaves behind: what its first part does if that stops, else what its second part
does. -/
theorem run_bind_leaves {P : FaultyStore → Prop} {x : Script α} {g : α → Script β} {f : FaultyStore}
    (hstop : ∀ cause f', x.run f = (.error cause, f') → P f')
    (hgoes : ∀ a f', x.run f = (.ok a, f') → P ((g a).run f').2) : P ((x >>= g).run f).2 := by
  rw [run_bind]
  cases hrun : x.run f with
  | mk result f' =>
      cases result with
      | ok a => exact hgoes a f' hrun
      | error cause => exact hstop cause f' hrun

theorem run_ask {c : StoreCall} {f : FaultyStore} (hroom : f.hasRoom c = true) :
    (ask c).run f =
      match f.perform c with
      | (.ok answer, f') => (.ok answer, f')
      | (.error e, f') => (.error (.failure e), f') := by
  rw [ask, run_call hroom]
  obtain ⟨answer, f'⟩ := f.perform c
  cases answer <;> rfl

theorem run_ask_of_full {c : StoreCall} {f : FaultyStore} (hfull : ¬ f.hasRoom c = true) :
    (ask c).run f = (.error .word, f.giveUp c) := run_call_of_full hfull _

theorem snd_run_ask {c : StoreCall} {f : FaultyStore} (hroom : f.hasRoom c = true) :
    ((ask c).run f).2 = (f.perform c).2 := by
  rw [run_ask hroom]
  obtain ⟨result, g⟩ := f.perform c
  cases result <;> rfl

/-- A call is made or given up. -/
theorem snd_run_ask_cases (c : StoreCall) (f : FaultyStore) :
    ((ask c).run f).2 = (f.perform c).2 ∨ ((ask c).run f).2 = f.giveUp c := by
  by_cases hroom : f.hasRoom c = true
  · exact .inl (snd_run_ask hroom)
  · rw [run_ask_of_full hroom]
    exact .inr rfl

theorem run_ask_eq_ok_iff {c : StoreCall} {f f' : FaultyStore} {answer : c.Answer} :
    (ask c).run f = (.ok answer, f') ↔ f.hasRoom c = true ∧ f.perform c = (.ok answer, f') := by
  by_cases hroom : f.hasRoom c = true
  · rw [run_ask hroom, and_iff_right hroom]
    obtain ⟨result, g⟩ := f.perform c
    cases result <;> simp
  · rw [run_ask_of_full hroom]
    simp [hroom]

/-- A call that is answered has been made. -/
theorem perform_of_run_ask {c : StoreCall} {f f' : FaultyStore} {answer : c.Answer}
    (hrun : (ask c).run f = (.ok answer, f')) : f.perform c = (.ok answer, f') := (run_ask_eq_ok_iff.1 hrun).2

theorem run_inCalendar_eq_ok {o : Option α} {f f' : FaultyStore} {a : α}
    (hrun : (inCalendar o).run f = (.ok a, f')) : o = some a := by
  cases o with
  | none => cases hrun
  | some b =>
      cases hrun
      rfl

/-- A caught error is handled on the store that it left behind; ends of the calendar and of the numbers are not
caught. -/
theorem run_recover (x : Script α) (handle : RiskError → Script α) (f : FaultyStore) :
    (x.recover handle).run f =
      match x.run f with
      | (.error (.failure e), g) => (handle e).run g
      | ended => ended := by
  induction x generalizing f with
  | done a => rfl
  | stop cause => cases cause <;> rfl
  | call c next ih =>
      show (call c fun answer => (next answer).recover handle).run f = _
      by_cases hroom : f.hasRoom c = true
      · rw [run_call hroom, run_call hroom]
        exact ih (f.perform c).1 (f.perform c).2
      · rw [run_call_of_full hroom, run_call_of_full hroom]

/-- A successful script is not affected by what would have been done about its errors. -/
theorem run_recover_of_ok {x : Script α} {f f' : FaultyStore} {a : α} (hx : x.run f = (.ok a, f'))
    (handle : RiskError → Script α) : (x.recover handle).run f = (.ok a, f') := by
  rw [run_recover, hx]

/-- Neither is one that has come to the end of the numbers. -/
theorem run_recover_of_word {x : Script α} {f f' : FaultyStore} (hx : x.run f = (.error .word, f'))
    (handle : RiskError → Script α) : (x.recover handle).run f = (.error .word, f') := by
  rw [run_recover, hx]

/-! ## Sequences -/

theorem bind_done (x : Script α) : x.bind done = x := by
  induction x with
  | done a => rfl
  | stop cause => rfl
  | call c next ih => exact congrArg (call c) (funext ih)

theorem bind_bind {γ : Type} (x : Script α) (g : α → Script β) (h : β → Script γ) :
    (x.bind g).bind h = x.bind (fun a => (g a).bind h) := by
  induction x with
  | done a => rfl
  | stop cause => rfl
  | call c next ih => exact congrArg (call c) (funext ih)

instance : LawfulMonad Script :=
  .mk' Script bind_done (fun _ _ => rfl) bind_bind

/-! ## The calls of a script -/

/-- Every call that the script can make is one of these. -/
def Only (ok : StoreCall → Prop) : Script α → Prop
  | done _ => True
  | stop _ => True
  | call c next => ok c ∧ ∀ answer, (next answer).Only ok

section Only

variable {ok : StoreCall → Prop} {x : Script α}

theorem only_pure (a : α) : (pure a : Script α).Only ok := trivial

theorem only_fail (e : RiskError) : (fail e : Script α).Only ok := trivial

theorem only_ofExcept (r : Except RiskError α) : (ofExcept r).Only ok := by
  cases r <;> trivial

theorem only_inCalendar (o : Option α) : (inCalendar o).Only ok := by
  cases o <;> trivial

theorem only_ask {c : StoreCall} (hc : ok c) : (ask c).Only ok := ⟨hc, only_ofExcept⟩

theorem only_attempt {c : StoreCall} (hc : ok c) : (attempt c).Only ok := ⟨hc, fun _ => trivial⟩

theorem only_bind {g : α → Script β} (hx : x.Only ok) (hg : ∀ a, (g a).Only ok) :
    (x >>= g).Only ok := by
  induction x with
  | done a => exact hg a
  | stop cause => trivial
  | call c next ih => exact ⟨hx.1, fun answer => ih answer (hx.2 answer)⟩

theorem only_recover {handle : RiskError → Script α} (hx : x.Only ok)
    (hhandle : ∀ e, (handle e).Only ok) : (x.recover handle).Only ok := by
  induction x with
  | done a => trivial
  | stop cause =>
      cases cause with
      | failure e => exact hhandle e
      | calendar => trivial
      | word => trivial
  | call c next ih => exact ⟨hx.1, fun answer => ih answer (hx.2 answer)⟩

theorem only_all (x : Script α) : x.Only (fun _ => True) := by
  induction x with
  | done a => trivial
  | stop cause => trivial
  | call c next ih => exact ⟨trivial, ih⟩

theorem only_mono {ok' : StoreCall → Prop} (hx : x.Only ok) (himp : ∀ c, ok c → ok' c) :
    x.Only ok' := by
  induction x with
  | done a => trivial
  | stop cause => trivial
  | call c next ih => exact ⟨himp c hx.1, fun answer => ih answer (hx.2 answer)⟩

/-- An invariant that every call of a script keeps, made or given up, is kept by the script, however it ends. -/
theorem run_keeps {I : FaultyStore → Prop} (hx : x.Only ok)
    (hkeep : ∀ c, ok c → ∀ f, I f → I (f.perform c).2) (hgive : ∀ c, ok c → ∀ f, I f → I (f.giveUp c))
    (f : FaultyStore) (h : I f) : I (x.run f).2 := by
  induction x generalizing f with
  | done a => exact h
  | stop cause => exact h
  | call c next ih =>
      by_cases hroom : f.hasRoom c = true
      · -- The bound holds for the rest of the script whatever the answer is, so also for this one.
        rw [run_call hroom]
        exact ih (f.perform c).1 (hx.2 _) (f.perform c).2 (hkeep c hx.1 f h)
      · rw [run_call_of_full hroom]
        exact hgive c hx.1 f h

end Only

/-! ## Scripts that stay in the calendar -/

/-- The script cannot stop at the end of the calendar. -/
def Dated : Script α → Prop
  | done _ => True
  | stop cause => cause ≠ .calendar
  | call _ next => ∀ answer, (next answer).Dated

theorem dated_ask (c : StoreCall) : (ask c).Dated := by
  intro answer
  cases answer with
  | ok a => trivial
  | error e => exact fun h => nomatch h

theorem dated_ofExcept (r : Except RiskError α) : (ofExcept r).Dated := by
  cases r with
  | ok a => trivial
  | error e => exact fun h => nomatch h

theorem dated_attempt (c : StoreCall) : (attempt c).Dated := fun _ => trivial

theorem dated_inCalendar {o : Option α} (hsome : o.isSome = true) : (inCalendar o).Dated := by
  cases o with
  | some a => trivial
  | none => cases hsome

theorem dated_bind {x : Script α} {g : α → Script β} (hx : x.Dated) (hg : ∀ a, (g a).Dated) : (x >>= g).Dated := by
  induction x with
  | done a => exact hg a
  | stop cause => exact hx
  | call c next ih => exact fun answer => ih answer (hx answer)

theorem dated_recover {x : Script α} {handle : RiskError → Script α} (hx : x.Dated) (hhandle : ∀ e, (handle e).Dated) :
    (x.recover handle).Dated := by
  induction x with
  | done a => trivial
  | stop cause =>
      cases cause with
      | failure e => exact hhandle e
      | calendar => exact absurd rfl hx
      | word => exact hx
  | call c next ih => exact fun answer => ih answer (hx answer)

theorem Dated.run_ne {x : Script α} (hx : x.Dated) (f : FaultyStore) : (x.run f).1 ≠ .error .calendar := by
  induction x generalizing f with
  | done a => exact fun h => nomatch h
  | stop cause =>
      intro h
      cases h
      exact hx rfl
  | call c next ih =>
      by_cases hroom : f.hasRoom c = true
      · rw [run_call hroom]
        exact ih (f.perform c).1 (hx _) (f.perform c).2
      · rw [run_call_of_full hroom]
        exact fun h => nomatch h

end Script

end SupplyRisk
