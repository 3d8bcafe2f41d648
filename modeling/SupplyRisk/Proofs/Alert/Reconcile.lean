import SupplyRisk.Alert.Lifecycle
import SupplyRisk.Proofs.Level
import SupplyRisk.Proofs.Script
import SupplyRisk.Proofs.Store.OpenAlert

/-!
# What reconciling and resolving write

Both operations read an alert and write at most one.  Faults of the store do not touch calls about alerts, and
an alert that was just found open has no rival, so reconciling succeeds as long as there is a number for the alert that
it opens (`reconcile_run`).  What it leaves behind is one of the five stores that `AlertContext.Reconciles` lists.
-/

namespace SupplyRisk

namespace Store

/-- The store with an alert over the one of its number. -/
def putAlert (s : Store) (a : Alert) : Store := { s with alerts := s.alerts.insert a }

variable {s : Store} {a b : Alert} {entity : EntityRef}

/-- An alert that was found open can be written as long as it stays with its entity. -/
theorem updateAlert_of_openAlert (hopen : s.openAlert entity = some a) (hid : b.id = a.id)
    (hentity : b.entity = entity) : s.perform (.updateAlert b) = .ok ((), s.putAlert b) := by
  have hknown : s.alerts.contains b.id.value.toNat = true :=
    contains_alert_iff.2 ⟨a, (of_openAlert hopen).1, hid.symm⟩
  have hrival : s.openRival? b = none := by
    unfold openRival?
    split
    · -- The search for a rival finds the alert itself.
      rw [hentity, hopen, Option.filter_eq_none_iff]
      intro c hc
      cases hc
      simp [hid]
    · rfl
  simp only [perform, updateAlert, hknown, hrival, if_true]
  rfl

/-- Resolving needs no look at the other alerts. -/
theorem updateAlert_of_resolved (hmem : a ∈ s.alerts.rows) (hid : b.id = a.id)
    (hresolved : b.isOpen = false) : s.perform (.updateAlert b) = .ok ((), s.putAlert b) := by
  have hknown : s.alerts.contains b.id.value.toNat = true := contains_alert_iff.2 ⟨a, hmem, hid.symm⟩
  have hrival : s.openRival? b = none := by simp [openRival?, hresolved]
  simp only [perform, updateAlert, hknown, hrival, if_true]
  rfl

end Store

theorem FaultyStore.pass_of_ok {f : FaultyStore} {c : StoreCall} {answer : c.Answer} {s : Store}
    (hperform : f.store.perform c = .ok (answer, s)) :
    f.pass c = (.ok answer, { f with store := s }) := by
  rw [pass, hperform]

namespace Script

variable {f : FaultyStore}

theorem run_ask_openAlert (entity : EntityRef) (f : FaultyStore) :
    (ask (.openAlert entity)).run f = (.ok (f.store.openAlert entity), f) := rfl

theorem run_ask_alert (id : AlertId) (f : FaultyStore) :
    (ask (.alert id)).run f =
      match f.store.alerts.find? id.value.toNat with
      | some a => (.ok a, f)
      | none => (.error (.failure (.recordNotFound id.text)), f) := by
  have hperform : f.perform (.alert id) = f.pass (.alert id) := rfl
  rw [run_ask rfl, hperform]
  simp only [FaultyStore.pass, Store.perform, Store.alert]
  cases f.store.alerts.find? id.value.toNat with
  | none => rfl
  | some a => rfl

theorem perform_insertAlert {draft : AlertDraft} (hnone : f.store.openAlert draft.entity = none) :
    let alert := Alert.ofDraft ⟨Store.nextNumber f.store.alerts⟩ draft
    f.perform (.insertAlert draft) = (.ok alert, { f with store := f.store.putAlert alert }) := by
  have hperform : f.store.perform (.insertAlert draft) =
      .ok (Alert.ofDraft ⟨Store.nextNumber f.store.alerts⟩ draft,
        f.store.putAlert (.ofDraft ⟨Store.nextNumber f.store.alerts⟩ draft)) := by
    simp only [Store.perform, Store.insertAlert, hnone]
    rfl
  exact FaultyStore.pass_of_ok hperform

theorem run_ask_insertAlert {draft : AlertDraft} (hnone : f.store.openAlert draft.entity = none)
    (hnext : Store.hasNext f.store.alerts = true) :
    let alert := Alert.ofDraft ⟨Store.nextNumber f.store.alerts⟩ draft
    (ask (.insertAlert draft)).run f = (.ok alert, { f with store := f.store.putAlert alert }) := by
  have hroom : f.hasRoom (.insertAlert draft) = true := FaultyStore.hasRoom_of_hasNumberFor rfl hnext
  intro alert
  rw [run_ask hroom, perform_insertAlert hnone]

/-- Without a number for it, no alert opens. -/
theorem run_ask_insertAlert_of_full {draft : AlertDraft} (hnone : f.store.openAlert draft.entity = none)
    (hfull : Store.hasNext f.store.alerts = false) : (ask (.insertAlert draft)).run f = (.error .word, f) := by
  have hroom : ¬ f.hasRoom (.insertAlert draft) = true :=
    FaultyStore.not_hasRoom_iff.2 fun _ => ⟨hfull, _, congrArg Prod.fst (perform_insertAlert hnone)⟩
  exact run_ask_of_full hroom

theorem run_ask_updateAlert {b : Alert}
    (hperform : f.store.perform (.updateAlert b) = .ok ((), f.store.putAlert b)) :
    (ask (.updateAlert b)).run f = (.ok (), { f with store := f.store.putAlert b }) := by
  have hpass : f.perform (.updateAlert b) = (.ok (), { f with store := f.store.putAlert b }) :=
    FaultyStore.pass_of_ok hperform
  rw [run_ask (FaultyStore.hasRoom_of_hasNumberFor rfl rfl), hpass]

end Script

/-- The calls about open alerts. -/
def StoreCall.onAlerts : StoreCall → Bool
  | .openAlert _ | .insertAlert _ | .updateAlert _ => true
  | _ => false

namespace AlertContext

theorem only_apply (c : AlertContext) (current : Option Alert) (now : Instant) :
    (c.apply current now).Only (fun call => call.onAlerts = true) := by
  dsimp only [apply]
  split
  · exact Script.only_bind (Script.only_ask rfl) fun _ => trivial
  · exact Script.only_bind (Script.only_ask rfl) fun _ => trivial
  · exact Script.only_bind (Script.only_ask rfl) fun _ => trivial
  · trivial

/-- Reconciling reads and writes open alerts only. -/
theorem only_reconcile (c : AlertContext) (now : Instant) :
    (c.reconcile now).Only (fun call => call.onAlerts = true) := by
  refine Script.only_bind (Script.only_ask rfl) fun current => ?_
  refine Script.only_recover (c.only_apply current now) fun e => ?_
  split
  · exact Script.only_bind (Script.only_ask rfl) fun again => c.only_apply again now
  · trivial

/-- What reconciling makes of a store, with the alert after the transition. -/
inductive Reconciles (c : AlertContext) (now : Instant) (s : Store) : Option Alert → Store → Prop
  | idle (hnone : s.openAlert c.entity = none) (hlow : c.level = .low) : Reconciles c now s none s
  | opens {a : Alert} (hnone : s.openAlert c.entity = none) (hlevel : .medium ≤ c.level)
      (ha : a = .ofDraft ⟨Store.nextNumber s.alerts⟩ (c.draft c.level now)) :
      Reconciles c now s (some a) (s.putAlert a)
  | resolves {a : Alert} (hopen : s.openAlert c.entity = some a) (hlow : c.level = .low) :
      Reconciles c now s (some (a.resolve now none)) (s.putAlert (a.resolve now none))
  | escalates {a : Alert} (hopen : s.openAlert c.entity = some a) (hlt : a.level < c.level) :
      Reconciles c now s (some (c.escalated a c.level now)) (s.putAlert (c.escalated a c.level now))
  | keeps {a : Alert} (hopen : s.openAlert c.entity = some a) (hlow : c.level ≠ .low)
      (hle : ¬ a.level < c.level) : Reconciles c now s (some a) s

variable {c : AlertContext} {now : Instant}

/-- The level of an entity without an open alert calls for one, but there is no number for it. -/
structure LacksNumber (c : AlertContext) (s : Store) : Prop where
  none : s.openAlert c.entity = none
  level : .medium ≤ c.level
  full : Store.hasNext s.alerts = false

theorem apply_run_of_lacks {f : FaultyStore} (hlacks : c.LacksNumber f.store) (now : Instant) :
    (c.apply (f.store.openAlert c.entity) now).run f = (.error .word, f) := by
  have hnone : f.store.openAlert (c.draft c.level now).entity = none := hlacks.none
  have hinsert := Script.run_ask_insertAlert_of_full hnone hlacks.full
  simp only [hlacks.none, apply, AlertTransition.plan, if_pos hlacks.level, Script.run_bind_of_error hinsert]

/-- A transition is carried out, or there is no number for the alert that is to open. -/
theorem apply_run (c : AlertContext) (now : Instant) (f : FaultyStore) :
    (∃ o s, (c.apply (f.store.openAlert c.entity) now).run f = (.ok o, { f with store := s }) ∧
      c.Reconciles now f.store o.alert s) ∨
    (c.apply (f.store.openAlert c.entity) now).run f = (.error .word, f) ∧ c.LacksNumber f.store := by
  cases hopen : f.store.openAlert c.entity with
  | none =>
      by_cases hlevel : Level.medium ≤ c.level
      · cases hnext : Store.hasNext f.store.alerts with
        | true =>
            have hnone : f.store.openAlert (c.draft c.level now).entity = none := hopen
            have hinsert := Script.run_ask_insertAlert hnone hnext
            simp only [apply, AlertTransition.plan, if_pos hlevel, Script.run_bind_of_ok hinsert,
              Script.run_pure]
            exact .inl ⟨_, _, rfl, .opens hopen hlevel rfl⟩
        | false =>
            -- This is the only transition that takes a number.
            have hlacks : c.LacksNumber f.store := ⟨hopen, hlevel, hnext⟩
            exact .inr ⟨hopen ▸ c.apply_run_of_lacks hlacks now, hlacks⟩
      · have hlow : c.level = .low := Classical.not_not.1 (mt Level.medium_le_iff.2 hlevel)
        simp only [apply, AlertTransition.plan, if_neg hlevel]
        exact .inl ⟨_, _, rfl, .idle hopen hlow⟩
  | some a =>
      have hentity : a.entity = c.entity := (Store.of_openAlert hopen).2.2
      by_cases hlow : c.level = .low
      · have hupdate := Script.run_ask_updateAlert
          (Store.updateAlert_of_openAlert hopen (b := a.resolve now none) rfl hentity)
        simp only [apply, AlertTransition.plan, if_pos hlow, Script.run_bind_of_ok hupdate,
          Script.run_pure]
        exact .inl ⟨_, _, rfl, .resolves hopen hlow⟩
      · by_cases hlt : a.level < c.level
        · have hupdate := Script.run_ask_updateAlert
            (Store.updateAlert_of_openAlert hopen (b := c.escalated a c.level now) rfl hentity)
          simp only [apply, AlertTransition.plan, if_neg hlow, if_pos hlt,
            Script.run_bind_of_ok hupdate, Script.run_pure]
          exact .inl ⟨_, _, rfl, .escalates hopen hlt⟩
        · simp only [apply, AlertTransition.plan, if_neg hlow, if_neg hlt]
          exact .inl ⟨_, _, rfl, .keeps hopen hlow hlt⟩

/-- Reconciling succeeds whatever the faults of the store are, and does one of five things; only for want of a number
it does nothing. -/
theorem reconcile_run (c : AlertContext) (now : Instant) (f : FaultyStore) :
    (∃ o s, (c.reconcile now).run f = (.ok o, { f with store := s }) ∧ c.Reconciles now f.store o.alert s) ∨
    (c.reconcile now).run f = (.error .word, f) ∧ c.LacksNumber f.store := by
  rw [reconcile, Script.run_bind_of_ok (Script.run_ask_openAlert c.entity f)]
  rcases apply_run c now f with ⟨o, s, hrun, hdoes⟩ | ⟨hrun, hlacks⟩
  · exact .inl ⟨o, s, Script.run_recover_of_ok hrun _, hdoes⟩
  · exact .inr ⟨Script.run_recover_of_word hrun _, hlacks⟩

theorem reconcile_run_of_lacks {f : FaultyStore} (hlacks : c.LacksNumber f.store) (now : Instant) :
    (c.reconcile now).run f = (.error .word, f) := by
  rw [reconcile, Script.run_bind_of_ok (Script.run_ask_openAlert c.entity f)]
  exact Script.run_recover_of_word (c.apply_run_of_lacks hlacks now) _

end AlertContext

/-- What resolving the alert of a number makes of a store. -/
inductive Resolves (id : AlertId) (resolver : Option String) (now : Instant) (s : Store) :
    Store → Prop
  | closes {a : Alert} (hmem : a ∈ s.alerts.rows) (hid : a.id = id) (hopen : a.isOpen = true) :
      Resolves id resolver now s (s.putAlert (a.resolve now resolver))
  | leaves (hnone : ∀ a ∈ s.alerts.rows, a.id = id → a.isOpen = false) :
      Resolves id resolver now s s

/-- Resolving writes an alert that is open, and otherwise leaves the store alone. -/
theorem resolveAlert_run (id : AlertId) (resolver : Option String) (now : Instant)
    (f : FaultyStore) :
    ∃ result s, (resolveAlert id resolver now).run f = (result, { f with store := s }) ∧
      Resolves id resolver now f.store s := by
  cases hfind : f.store.alerts.find? id.value.toNat with
  | none =>
      have hask : (Script.ask (.alert id)).run f =
          (.error (.failure (.recordNotFound id.text)), f) := by
        rw [Script.run_ask_alert, hfind]
      refine ⟨_, _, Script.run_bind_of_error hask _, .leaves fun a hmem hid => ?_⟩
      exact absurd (congrArg (·.value.toNat) hid) (Roster.find?_eq_none_iff.1 hfind a hmem)
  | some a =>
      obtain ⟨hmem, hrank⟩ := Roster.find?_eq_some_iff.1 hfind
      have hid : a.id = id := AlertId.toNat_inj.1 hrank
      have hask : (Script.ask (.alert id)).run f = (.ok a, f) := by
        rw [Script.run_ask_alert, hfind]
      rw [resolveAlert, Script.run_bind_of_ok hask]
      cases hopen : a.isOpen with
      | true =>
          have hupdate := Script.run_ask_updateAlert
            (Store.updateAlert_of_resolved hmem (b := a.resolve now resolver) rfl rfl)
          simp only [if_true, Script.run_bind_of_ok hupdate, Script.run_pure]
          exact ⟨_, _, rfl, .closes hmem hid hopen⟩
      | false =>
          refine ⟨_, _, rfl, .leaves fun b hb hbid => ?_⟩
          have hsame : b = a := Roster.eq_of_rank_eq hb hmem
            (congrArg (·.value.toNat) (hbid.trans hid.symm))
          rw [hsame, hopen]

end SupplyRisk
