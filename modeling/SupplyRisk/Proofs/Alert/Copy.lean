import SupplyRisk.Proofs.Engine.Verdict

/-!
# Copies of alerts

Work on an alert reads it, changes its copy and writes the copy back whole.  A script has an alert *in hand* from the
call that showed it open to the call that writes it resolved, is refused, or shows another one; a script that
`Minds` its hand writes nothing but the alert in hand.  It *carries* an alert while it can still write it before it
looks at alerts again (`Script.Carries`).  Reconciling, settling an assessment and resolving all mind their hands
(`AlertTask.minds_script`).
-/

namespace SupplyRisk

namespace StoreCall

/-- Calls whose answer shows an alert as it is stored. -/
def showsAlert : StoreCall → Bool
  | .openAlert _ | .insertAlert _ | .alert _ => true
  | _ => false

/-- The number of the alert that a call writes over the stored one. -/
def overwrites? : StoreCall → Option AlertId
  | .updateAlert a => some a.id
  | _ => none

/-- What a caller has in hand after the answer to a call, given what it had before. -/
def inHand : (c : StoreCall) → Option AlertId → Except RiskError c.Answer → Option AlertId
  | .openAlert _, _, .ok found => found.map (·.id)
  | .insertAlert _, _, .ok a => some a.id
  | .alert _, _, .ok a => if a.isOpen then some a.id else none
  | .updateAlert a, _, .ok _ => if a.isOpen then some a.id else none
  | .openAlert _, _, .error _ | .insertAlert _, _, .error _ | .alert _, _, .error _ => none
  | .updateAlert _, _, .error _ => none
  | _, hand, _ => hand

variable {c : StoreCall}

/-- What was in hand before does not matter once an alert is shown. -/
theorem inHand_of_shows (hshows : c.showsAlert = true) (hand hand' : Option AlertId)
    (answer : Except RiskError c.Answer) : c.inHand hand answer = c.inHand hand' answer := by
  cases c with
  | openAlert _ | insertAlert _ | alert _ => cases answer <;> rfl
  | _ => cases hshows

theorem overwrites?_of_shows (hshows : c.showsAlert = true) : c.overwrites? = none := by
  cases c with
  | updateAlert _ => cases hshows
  | _ => rfl

/-- Calls that neither show nor write alerts leave the hand as it is. -/
theorem inHand_of_other (hshows : c.showsAlert = false) (hwrites : c.overwrites? = none) (hand : Option AlertId)
    (answer : Except RiskError c.Answer) : c.inHand hand answer = hand := by
  cases c with
  | openAlert _ | insertAlert _ | alert _ => cases hshows
  | updateAlert _ => cases hwrites
  | _ => rfl

end StoreCall

namespace Script

variable {α β : Type} {hand : Option AlertId} {id : AlertId}

/-- The script can write the alert of a number before it looks at alerts again. -/
def Carries (id : AlertId) : Script α → Prop
  | done _ => False
  | stop _ => False
  | call c next => c.overwrites? = some id ∨ c.showsAlert = false ∧ ∃ answer, (next answer).Carries id

/-- The script has ended or is about to look at an alert. -/
def isIdle : Script α → Bool
  | done _ | stop _ => true
  | call c _ => c.showsAlert

theorem not_carries_of_isIdle {x : Script α} (hidle : x.isIdle = true) (id : AlertId) : ¬ x.Carries id := by
  cases x with
  | done a => exact not_false
  | stop cause => exact not_false
  | call c next =>
      rintro (hwrites | ⟨hshows, -⟩)
      · exact nomatch (StoreCall.overwrites?_of_shows hidle).symm.trans hwrites
      · exact nomatch hshows.symm.trans hidle

/-- Whatever the answers are, the script writes no alert but the one in hand, and what it comes to is as described,
given what is in hand then. -/
def Minds (Q : α → Option AlertId → Prop) : Script α → Option AlertId → Prop
  | done a, hand => Q a hand
  | stop _, _ => True
  | call c next, hand =>
      (∀ id, c.overwrites? = some id → hand = some id) ∧ ∀ answer, (next answer).Minds Q (c.inHand hand answer)

section Minds

variable {Q : α → Option AlertId → Prop} {R : β → Option AlertId → Prop} {x : Script α}

theorem minds_ask {c : StoreCall} {Q : c.Answer → Option AlertId → Prop}
    (hwrites : ∀ id, c.overwrites? = some id → hand = some id)
    (hQ : ∀ answer, Q answer (c.inHand hand (.ok answer))) : (ask c).Minds Q hand := by
  refine ⟨hwrites, fun answer => ?_⟩
  cases answer with
  | ok answer => exact hQ answer
  | error e => trivial

theorem minds_bind {g : α → Script β} (hx : x.Minds Q hand) (hg : ∀ a hand, Q a hand → (g a).Minds R hand) :
    (x >>= g).Minds R hand := by
  induction x generalizing hand with
  | done a => exact hg a hand hx
  | stop cause => trivial
  | call c next ih => exact ⟨hx.1, fun answer => ih answer (hx.2 answer)⟩

theorem minds_recover {handle : RiskError → Script α} (hx : x.Minds Q hand)
    (hhandle : ∀ e hand, (handle e).Minds Q hand) : (x.recover handle).Minds Q hand := by
  induction x generalizing hand with
  | done a => exact hx
  | stop cause =>
      cases cause with
      | failure e => exact hhandle e hand
      | calendar => trivial
      | word => trivial
  | call c next ih => exact ⟨hx.1, fun answer => ih answer (hx.2 answer)⟩

/-- A script that does not carry the alert in hand may as well have nothing in hand. -/
theorem minds_of_not_carries (hx : x.Minds (fun _ _ => True) (some id)) (hnot : ¬ x.Carries id) :
    x.Minds (fun _ _ => True) none := by
  induction x with
  | done a => trivial
  | stop cause => trivial
  | call c next ih =>
      have hwrites : c.overwrites? = none := by
        cases hc : c.overwrites? with
        | none => rfl
        | some other =>
            cases hx.1 other hc
            exact absurd (.inl hc) hnot
      refine ⟨fun other hother => (nomatch hwrites.symm.trans hother), fun answer => ?_⟩
      have hrest := hx.2 answer
      cases hshows : c.showsAlert with
      | true => rwa [StoreCall.inHand_of_shows hshows none (some id)]
      | false =>
          -- The hand goes on as it was, and so does the script's not carrying what is in it.
          rw [StoreCall.inHand_of_other hshows hwrites] at hrest ⊢
          exact ih answer hrest fun hcarries => hnot (.inr ⟨hshows, answer, hcarries⟩)

end Minds

end Script

/-! ## The work on alerts -/

/-- The alert of an outcome is in hand, unless it is resolved. -/
def AlertOutcome.InHand (o : AlertOutcome) (hand : Option AlertId) : Prop :=
  ∀ a, o.alert = some a → a.isOpen = true → hand = some a.id

namespace AlertContext

variable (c : AlertContext) (now : Instant)

theorem minds_apply (current : Option Alert) :
    (c.apply current now).Minds AlertOutcome.InHand (current.map (·.id)) := by
  dsimp only [apply]
  split
  · refine Script.minds_bind (Q := fun a hand => hand = some a.id)
      (Script.minds_ask (fun _ h => nomatch h) fun _ => rfl) ?_
    rintro a _ rfl b hb -
    cases hb
    rfl
  · rename_i a hplan
    refine Script.minds_bind (Q := fun _ hand => (c.escalated a _ now).isOpen = true → hand = some a.id)
      (Script.minds_ask (fun _ h => h) fun _ hopen => if_pos hopen) ?_
    rintro _ hand hhand b hb hopen
    cases hb
    exact hhand hopen
  · rename_i a
    refine Script.minds_bind (Q := fun _ _ => True) (Script.minds_ask (fun _ h => h) fun _ => trivial) ?_
    rintro _ hand - b hb hopen
    cases hb
    cases hopen
  · intro a ha hopen
    exact congrArg (Option.map _) ha

theorem minds_reconcile (hand : Option AlertId) : (c.reconcile now).Minds AlertOutcome.InHand hand := by
  -- After a read it does not matter what was in hand before, so the second attempt starts like the first one.
  have hread (hand : Option AlertId) (rest : Option Alert → Script AlertOutcome)
      (hrest : ∀ current, (rest current).Minds AlertOutcome.InHand (current.map (·.id))) :
      (Script.ask (.openAlert c.entity) >>= rest).Minds AlertOutcome.InHand hand := by
    refine Script.minds_bind (Q := fun found hand => hand = found.map (·.id))
      (Script.minds_ask (fun _ h => nomatch h) fun _ => rfl) ?_
    rintro found _ rfl
    exact hrest found
  refine hread hand _ fun current => Script.minds_recover (c.minds_apply now current) fun e hand => ?_
  split
  · exact hread hand _ (c.minds_apply now)
  · trivial

end AlertContext

theorem minds_logPendingEvent {o : AlertOutcome} {hand : Option AlertId} (hhand : o.InHand hand) (triggered : Bool)
    (draft : EventDraft) : (logPendingEvent o.alert triggered draft).Minds (fun _ _ => True) hand := by
  unfold logPendingEvent
  split
  · trivial
  · rename_i a halert
    split
    · rename_i howes
      -- Events are logged for open alerts only, and an open one is still in hand.
      have hid := hhand a halert (Bool.and_eq_true_iff.1 howes).1
      split
      · refine Script.minds_bind (Q := fun _ hand => hand = some a.id)
          (Script.minds_ask (fun _ h => nomatch h) fun _ => hid) ?_
        rintro event _ rfl
        exact Script.minds_bind (Q := fun _ _ => True) (Script.minds_ask (fun _ h => h) fun _ => trivial)
          fun _ _ _ => trivial
      · exact Script.minds_bind (Q := fun _ _ => True) (Script.minds_ask (fun _ h => hid.trans h) fun _ => trivial)
          fun _ _ _ => trivial
    · trivial

theorem minds_resolveAlert (id : AlertId) (resolver : Option String) (now : Instant) (hand : Option AlertId) :
    (resolveAlert id resolver now).Minds (fun _ _ => True) hand := by
  refine Script.minds_bind (Q := fun a hand => a.isOpen = true → hand = some a.id)
    (Script.minds_ask (fun _ h => nomatch h) fun a hopen => if_pos hopen) fun a hand hhand => ?_
  split
  · rename_i hopen
    exact Script.minds_bind (Q := fun _ _ => True)
      (Script.minds_ask (fun _ h => (hhand hopen).trans h) fun _ => trivial) fun _ _ _ => trivial
  · trivial

/-- Work on alerts that callers do at the same time. -/
inductive AlertTask where
  /-- Brings the alert of an entity in line with its level. -/
  | reconcile (c : AlertContext) (now : Instant)
  /-- Does what is left of an assessment when its record is saved: reconciles the alert and logs the event that it
  owes. -/
  | settle (v : Verdict) (now : Instant)
  /-- Resolves an alert for a reviewer. -/
  | resolve (id : AlertId) (resolver : Option String) (now : Instant)

namespace AlertTask

/-- The calls of a task, whose result is of no interest here. -/
def script : AlertTask → Script Unit
  | reconcile c now => do let _ ← c.reconcile now
  | settle v now => do let _ ← v.settle now
  | resolve id resolver now => do let _ ← resolveAlert id resolver now

/-- Every task writes only the alert that it has in hand, and starts with none. -/
theorem minds_script (task : AlertTask) : task.script.Minds (fun _ _ => True) none := by
  cases task with
  | reconcile c now => exact Script.minds_bind (c.minds_reconcile now none) fun _ _ _ => trivial
  | settle v now =>
      refine Script.minds_bind (Q := fun _ _ => True) ?_ fun _ _ _ => trivial
      refine Script.minds_bind (v.alert.minds_reconcile now none) fun o hand hhand => ?_
      exact Script.minds_bind (minds_logPendingEvent hhand v.triggered v.event) fun _ _ _ => trivial
  | resolve id resolver now =>
      exact Script.minds_bind (minds_resolveAlert id resolver now none) fun _ _ _ => trivial

end AlertTask

end SupplyRisk
