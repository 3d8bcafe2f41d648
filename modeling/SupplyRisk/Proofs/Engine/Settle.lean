import SupplyRisk.Proofs.Alert.Owed
import SupplyRisk.Proofs.Engine.Verdict

/-!
# After the save

Once its record is saved, an attempt can only fail where the event is logged, or for want of a number: `Verdict.Settles`
puts together what reconciling and logging leave behind.  Settling starts over from what it finds, so settling a verdict again
reconciles nothing and comes back to the event that is still owed (`settle_again`).
-/

namespace SupplyRisk

namespace Verdict

variable {v : Verdict} {now : Instant} {f : FaultyStore}

/-- What the attempt answers with, given whether an event was logged. -/
def outcome (v : Verdict) (eventCreated : Bool) : Outcome where
  highRisk := v.record.level.isHigh
  eventCreated := eventCreated
  belowStockThreshold := v.belowStockThreshold

/-- What the part of an attempt after its save can bring about. -/
inductive Settles (v : Verdict) (now : Instant) (f : FaultyStore) :
    Except Halt Outcome × FaultyStore → Prop
  | of_reconciles {alert : Option Alert} {t : Store} {logged : Except Halt Bool} {g : FaultyStore}
      (hreconciles : v.alert.Reconciles now f.store alert t)
      (hlogs : Logs alert v.triggered v.event { f with store := t } (logged, g)) :
      Settles v now f (logged.map v.outcome, g)
  /-- There is no number for the alert that is to open. -/
  | lacks (hlacks : v.alert.LacksNumber f.store) : Settles v now f (.error .word, f)

/-- The alert that reconciling hands on has no rival, so its event can be settled on it. -/
theorem settle_settles (v : Verdict) (now : Instant) (f : FaultyStore) :
    v.Settles now f ((v.settle now).run f) := by
  rcases v.alert.reconcile_run now f with ⟨o, t, hrun, hreconciles⟩ | ⟨hrun, hlacks⟩
  rotate_left
  · rw [settle, Script.run_bind_of_error hrun]
    exact .lacks hlacks
  have hlogs : Logs o.alert v.triggered v.event { f with store := t }
      ((logPendingEvent o.alert v.triggered v.event).run { f with store := t }) := by
    refine logPendingEvent_logs (fun a ha hopen => ?_) v.triggered v.event
    rw [ha] at hreconciles
    have hfound := hreconciles.found hopen
    rwa [(Store.of_openAlert hfound).2.2]
  rw [settle, Script.run_bind_of_ok hrun, Script.run_bind]
  cases hlog : (logPendingEvent o.alert v.triggered v.event).run { f with store := t } with
  | mk logged g =>
      rw [hlog] at hlogs
      have hsettles := Settles.of_reconciles hreconciles hlogs
      cases logged with
      | error cause => exact hsettles
      | ok created => exact hsettles

theorem settle_of_lacks (hlacks : v.alert.LacksNumber f.store) (now : Instant) :
    (v.settle now).run f = (.error .word, f) := Script.run_bind_of_error (v.alert.reconcile_run_of_lacks hlacks now) _

/-- While the event log does not fail, settling succeeds unless it runs out of numbers. -/
theorem settle_succeeds (v : Verdict) (now : Instant) (hevent : f.faults.failingEventOnce = false) :
    ∃ r g, (v.settle now).run f = (r, g) ∧ (r = .error .word ∨ ∃ created, r = .ok (v.outcome created)) := by
  have hsettles := v.settle_settles now f
  generalize (v.settle now).run f = ended at hsettles
  cases hsettles with
  | of_reconciles hreconciles hlogs =>
      cases hlogs with
      | idle => exact ⟨_, _, rfl, .inr ⟨false, rfl⟩⟩
      | waives => exact ⟨_, _, rfl, .inr ⟨false, rfl⟩⟩
      | logs => exact ⟨_, _, rfl, .inr ⟨true, rfl⟩⟩
      | fails message halert howes htriggered hfault => cases hevent.symm.trans hfault
      | lacks => exact ⟨_, _, rfl, .inl rfl⟩
  | lacks => exact ⟨_, _, rfl, .inl rfl⟩

/-- After the save come calls about open alerts, and one event. -/
theorem only_settle (v : Verdict) (now : Instant) :
    (v.settle now).Only (fun c => c.onAlerts = true ∨ ∃ draft, c = .insertEvent draft) := by
  refine Script.only_bind (Script.only_mono (v.alert.only_reconcile now) fun c => .inl) fun o => ?_
  refine Script.only_bind (Script.only_mono (only_logPendingEvent ..) ?_) fun created => trivial
  rintro c (hevent | ⟨a, event, -, rfl⟩)
  · exact .inr hevent
  · exact .inl rfl

end Verdict

namespace AlertContext

variable {c : AlertContext} {now : Instant} {s t : Store} {a : Alert}

theorem Reconciles.riskRecord? {alert : Option Alert} (hdoes : c.Reconciles now s alert t)
    (entity : EntityRef) : t.riskRecord? entity = s.riskRecord? entity := by
  rcases hdoes.store with rfl | ⟨x, rfl⟩
  · rfl
  · exact Store.riskRecord?_putAlert s x entity

/-- An alert that reconciling left open shows at least the level. -/
theorem Reconciles.settled (hdoes : c.Reconciles now s (some a) t) (hopen : a.isOpen = true) :
    c.level ≠ .low ∧ ¬ a.level < c.level := by
  cases hdoes with
  | opens hnone hlevel ha =>
      subst ha
      exact ⟨Level.medium_le_iff.1 hlevel, Nat.lt_irrefl _⟩
  | resolves hfound hlow => cases hopen
  | escalates hfound hlt => exact ⟨Level.ne_low_of_lt hlt, Nat.lt_irrefl _⟩
  | keeps hfound hlow hle => exact ⟨hlow, hle⟩

/-- Reconciling again keeps the alert that it left open. -/
theorem reconcile_again (hdoes : c.Reconciles now s (some a) t) (hopen : a.isOpen = true) :
    ∃ o, (c.reconcile now).run (.plain t) = (.ok o, .plain t) ∧ o.alert = some a := by
  have hfound := hdoes.found hopen
  obtain ⟨hlow, hle⟩ := hdoes.settled hopen
  rcases c.reconcile_run now (.plain t) with ⟨o, u, hrun, hagain⟩ | ⟨-, hlacks⟩
  rotate_left
  · cases hfound.symm.trans hlacks.none
  generalize halert : o.alert = alert at hagain
  cases hagain with
  | idle hnone => cases hfound.symm.trans hnone
  | opens hnone => cases hfound.symm.trans hnone
  | resolves hfound' hlow' => exact absurd hlow' hlow
  | escalates hfound' hlt =>
      cases hfound.symm.trans hfound'
      exact absurd hlt hle
  | keeps hfound' =>
      cases hfound.symm.trans hfound'
      exact ⟨o, hrun, halert⟩

end AlertContext

/-- Settling changes no risk record. -/
theorem Verdict.Settles.riskRecord? {v : Verdict} {now : Instant} {f : FaultyStore}
    {ended : Except Halt Outcome × FaultyStore} (hsettles : v.Settles now f ended) (entity : EntityRef) :
    ended.2.store.riskRecord? entity = f.store.riskRecord? entity := by
  cases hsettles with
  | of_reconciles hreconciles hlogs =>
      rw [← hreconciles.riskRecord? entity]
      cases hlogs with
      | idle hnone => rfl
      | waives halert howes htriggered => exact Store.riskRecord?_putAlert ..
      | logs halert howes htriggered hfault => cases entity <;> rfl
      | fails message halert howes htriggered hfault => rfl
      | lacks halert howes htriggered hfault hfull => rfl
  | lacks hlacks => rfl

/-- Settling again comes back to the event that an alert was left owing. -/
theorem Verdict.settle_again {v : Verdict} {now : Instant} {s t : Store} {o : AlertOutcome} {a : Alert}
    (hrun : (v.alert.reconcile now).run (.plain s) = (.ok o, .plain t)) (halert : o.alert = some a)
    (hdoes : v.alert.Reconciles now s (some a) t) (hopen : a.isOpen = true) :
    (v.settle now).run (.plain t) = (v.settle now).run (.plain s) := by
  obtain ⟨o', hagain, halert'⟩ := AlertContext.reconcile_again hdoes hopen
  rw [settle, Script.run_bind_of_ok hagain, Script.run_bind_of_ok hrun, halert, halert']

end SupplyRisk
