import SupplyRisk.Proofs.Alert.Copy
import SupplyRisk.Proofs.Alert.Lifecycle
import SupplyRisk.Proofs.Pool

/-!
# Interleaved work on alerts

Assessors and reviewers work on the alerts of one store at the same time.  The store performs each of their calls as
a whole, but between two calls of one script any calls of the others may come.  Alerts bear no version and are written
back whole, so a copy that was read before a resolution and is written after it reopens the alert
(`stale_copy_reopens_alert`).  There is no other way to undo a resolution: as long as no alert is resolved while
another script carries it, whatever is resolved stays as it is, and a renewed risk opens a new alert
(`resolutions_stand_unless_crossed`).

The proof follows the hands of the scripts.  An alert is open when it comes into a hand, and stays open while it is in
one, except that the call of one script resolves it; then no other script can write it any more
(`attended_step`).  So only open alerts are ever written.
-/

namespace SupplyRisk

namespace Store

/-- The alert of a number is stored and open. -/
def AlertOpen (s : Store) (id : AlertId) : Prop := ∃ a ∈ s.alerts.rows, a.id = id ∧ a.isOpen = true

instance (s : Store) (id : AlertId) : Decidable (s.AlertOpen id) :=
  inferInstanceAs (Decidable (∃ a ∈ s.alerts.rows, a.id = id ∧ a.isOpen = true))

theorem AlertOpen.congr {s t : Store} {id : AlertId} (hopen : s.AlertOpen id) (hsame : t.alerts = s.alerts) :
    t.AlertOpen id := by
  unfold AlertOpen
  rwa [hsame]

/-- Looking an alert up shows a stored one. -/
theorem alert_eq_ok {s s' : Store} {id : AlertId} {a : Alert} (hok : s.perform (.alert id) = .ok (a, s')) :
    a ∈ s.alerts.rows ∧ s' = s := by
  obtain ⟨b, hfound, hb⟩ := map_eq_ok_iff.1 hok
  cases hb
  unfold alert at hfound
  split at hfound
  · rename_i hfind
    cases hfound
    exact ⟨(Roster.find?_eq_some_iff.1 hfind).1, rfl⟩
  · cases hfound

end Store

/-! ## One call -/

namespace FaultyStore

variable {f : FaultyStore} {c : StoreCall} {id : AlertId} {a : Alert} {hand : Option AlertId}

/-- Other writers write no alerts. -/
theorem alerts_raced (f : FaultyStore) (c : StoreCall) : (f.raced c).store.alerts = f.store.alerts := by
  rcases f.raced_cases c with hsame | ⟨r, -, -, hput⟩
  · rw [hsame]
  · rw [hput, Store.alerts_putRisk]

theorem alerts_giveUp (f : FaultyStore) (c : StoreCall) : (f.giveUp c).store.alerts = f.store.alerts := by
  unfold giveUp
  split
  · exact f.alerts_raced c
  · rfl

/-- A call leaves the alerts alone, stores a new one, or writes over the one that it names. -/
theorem alerts_perform (f : FaultyStore) (c : StoreCall) :
    (f.perform c).2.store.alerts = f.store.alerts ∨
      ∃ x, (f.perform c).2.store.alerts = f.store.alerts.insert x ∧
        (x.id = ⟨Store.nextNumber f.store.alerts⟩ ∨ c.overwrites? = some x.id) := by
  cases hperform : f.perform c with
  | mk result g =>
      rw [← f.alerts_raced c]
      cases result with
      | error e => exact .inl (congrArg Store.alerts (store_of_perform_error hperform))
      | ok answer =>
          rcases Store.alerts_of_effect (Store.perform_effect (perform_eq_ok hperform)) with
            hsame | ⟨draft, -, hafter⟩ | ⟨x, rfl, hafter⟩
          · exact .inl hsame
          · exact .inr ⟨_, hafter, .inl rfl⟩
          · exact .inr ⟨x, hafter, .inr rfl⟩

theorem knowsAlert_perform (hknown : f.store.KnowsAlert id) (c : StoreCall) :
    (f.perform c).2.store.KnowsAlert id := by
  rcases f.alerts_perform c with hsame | ⟨x, hafter, -⟩
  · rwa [Store.KnowsAlert, hsame]
  · exact Store.knowsAlert_insert hknown hafter

/-- An alert stays as it is unless a call writes over it. -/
theorem mem_alerts_perform (hfit : f.store.AlertNumbersFit) (hmem : a ∈ f.store.alerts.rows)
    (hwrites : c.overwrites? ≠ some a.id) : a ∈ (f.perform c).2.store.alerts.rows := by
  rcases f.alerts_perform c with hsame | ⟨x, hafter, hx⟩
  · rwa [hsame]
  · have hne : a.id ≠ x.id := by
      intro hid
      rcases hx with hnew | hover
      · have hlt : a.id.value.toNat < (Store.nextNumber f.store.alerts).toNat := Store.lt_nextNumber hmem hfit
        rw [hid, hnew] at hlt
        exact Nat.lt_irrefl _ hlt
      · exact hwrites (hover.trans (congrArg some hid.symm))
    rw [hafter, Store.mem_alerts_insert_iff]
    exact .inr ⟨hmem, hne⟩

/-- What a caller has in hand after a call is open, if what it had before was. -/
theorem alertOpen_of_inHand (hhand : hand = some id → f.store.AlertOpen id)
    (hafter : c.inHand hand (f.perform c).1 = some id) : (f.perform c).2.store.AlertOpen id := by
  have hraced (hin : hand = some id) : (f.raced c).store.AlertOpen id := (hhand hin).congr (f.alerts_raced c)
  cases hperform : f.perform c with
  | mk result g =>
  rw [hperform] at hafter
  cases result with
  | error e =>
      -- A refused call leaves the alerts alone, and a hand that it does not empty.
      show g.store.AlertOpen id
      rw [store_of_perform_error hperform]
      cases c with
      | openAlert _ | insertAlert _ | alert _ | updateAlert _ => cases hafter
      | _ => exact hraced hafter
  | ok answer =>
      have hstore := perform_eq_ok hperform
      cases c with
      | openAlert entity =>
          obtain ⟨rfl, hsame⟩ := Prod.mk.inj (Except.ok.inj hstore)
          obtain ⟨a, hfound, rfl⟩ := Option.map_eq_some_iff.1 hafter
          obtain ⟨hmem, hopen, -⟩ := Store.of_openAlert hfound
          exact ⟨a, hsame ▸ hmem, rfl, hopen⟩
      | insertAlert draft =>
          obtain ⟨ha, hrows⟩ := Store.insertAlert_eq_ok hstore
          cases hafter
          exact ⟨answer, hrows ▸ Store.mem_alerts_insert_iff.2 (.inl rfl), rfl, by rw [ha]; rfl⟩
      | alert number =>
          obtain ⟨hmem, hsame⟩ := Store.alert_eq_ok hstore
          obtain ⟨hopen, hid⟩ := Option.ite_none_right_eq_some.1 hafter
          exact ⟨answer, hsame ▸ hmem, Option.some_inj.1 hid, hopen⟩
      | updateAlert a =>
          obtain ⟨hopen, hid⟩ := Option.ite_none_right_eq_some.1 hafter
          exact ⟨a, Store.updateAlert_eq_ok hstore ▸ Store.mem_alerts_insert_iff.2 (.inl rfl), Option.some_inj.1 hid,
            hopen⟩
      | _ =>
          obtain ⟨a, hmem, hid, hopen⟩ := hraced hafter
          rcases Store.alerts_of_effect (Store.perform_effect hstore) with hsame | ⟨draft, hc, -⟩ | ⟨x, hc, -⟩
          · exact ⟨a, hsame ▸ hmem, hid, hopen⟩
          · cases hc
          · cases hc

end FaultyStore

namespace ScriptPool

/-- Tasks that have made no call yet. -/
def start (s : Store) (tasks : List AlertTask) : ScriptPool := ⟨.plain s, tasks.map AlertTask.script⟩

/-- The next call of a script resolves the alert. -/
def Closes (p : ScriptPool) (id : AlertId) (i : Nat) : Prop :=
  p.store.AlertOpen id ∧ ¬ (p.step i).store.AlertOpen id

instance (p : ScriptPool) (id : AlertId) (i : Nat) : Decidable (p.Closes id i) :=
  inferInstanceAs (Decidable (_ ∧ ¬ _))

/-- Whenever a script resolves the alert, no other script carries a copy of it. -/
def Uncrossed (id : AlertId) : ScriptPool → List Nat → Prop
  | _, [] => True
  | p, i :: is => (p.Closes id i → ∀ x ∈ p.scripts.eraseIdx i, ¬ x.Carries id) ∧ (p.step i).Uncrossed id is

/-- The alert is resolved only while all other scripts are idle. -/
def Orderly (id : AlertId) : ScriptPool → List Nat → Prop
  | _, [] => True
  | p, i :: is => (p.Closes id i → (p.scripts.eraseIdx i).all Script.isIdle = true) ∧ (p.step i).Orderly id is

instance decidableOrderly (id : AlertId) : (p : ScriptPool) → (schedule : List Nat) → Decidable (p.Orderly id schedule)
  | _, [] => .isTrue trivial
  | p, i :: is =>
      have := decidableOrderly id (p.step i) is
      inferInstanceAs (Decidable (_ ∧ _))

/-- Every script minds its hand, and the alert is open as long as one of them has it in hand. -/
def Attended (id : AlertId) (p : ScriptPool) : Prop :=
  ∀ x ∈ p.scripts, ∃ hand, x.Minds (fun _ _ => True) hand ∧ (hand = some id → p.store.AlertOpen id)

variable {p : ScriptPool} {i : Nat} {id : AlertId} {a : Alert}

theorem uncrossed_append {before after : List Nat} :
    p.Uncrossed id (before ++ after) ↔ p.Uncrossed id before ∧ (p.run before).Uncrossed id after := by
  induction before generalizing p with
  | nil => exact (true_and _).to_iff.symm
  | cons i before ih => exact (and_congr_right fun _ => ih).trans and_assoc.symm

/-- Scripts that are idle while an alert is resolved do not cross its resolution. -/
theorem uncrossed_of_orderly {schedule : List Nat} (horderly : p.Orderly id schedule) : p.Uncrossed id schedule := by
  induction schedule generalizing p with
  | nil => trivial
  | cons i schedule ih =>
      obtain ⟨hidle, hrest⟩ := horderly
      exact ⟨fun hcloses x hx => Script.not_carries_of_isIdle (List.all_eq_true.1 (hidle hcloses) x hx) id, ih hrest⟩

/-! ## Hands -/

theorem attended_start (s : Store) (tasks : List AlertTask) : (start s tasks).Attended id := by
  intro x hx
  obtain ⟨task, -, rfl⟩ := List.mem_map.1 hx
  exact ⟨none, task.minds_script, fun h => nomatch h⟩

/-- A call keeps what the scripts have in hand open, unless it resolves an alert that another script carries. -/
theorem attended_step (hattended : p.Attended id)
    (hcrossed : p.Closes id i → ∀ x ∈ p.scripts.eraseIdx i, ¬ x.Carries id) : (p.step i).Attended id := by
  rcases p.step_cases i with ⟨hsame, -⟩ | ⟨c, next, hnext, -, -, hstep⟩ | ⟨c, next, hnext, -, -, hstep⟩
  · rwa [hsame]
  · intro x hx
    obtain ⟨j, hj⟩ := List.mem_iff_getElem?.1 hx
    rw [hstep, List.getElem?_set] at hj
    by_cases hij : i = j
    · -- The script that plays takes up what its call answers.
      rw [if_pos hij] at hj
      obtain ⟨-, hx⟩ := Option.ite_none_right_eq_some.1 hj
      obtain ⟨hand, hminds, hopen⟩ := hattended _ (List.mem_of_getElem? hnext)
      rw [← Option.some_inj.1 hx, hstep]
      exact ⟨_, hminds.2 _, FaultyStore.alertOpen_of_inHand hopen⟩
    · rw [if_neg hij] at hj
      obtain ⟨hand, hminds, hopen⟩ := hattended x (List.mem_of_getElem? hj)
      by_cases hkept : hand = some id → (p.step i).store.AlertOpen id
      · exact ⟨hand, hminds, hkept⟩
      · -- The call resolves what the script has in hand, so the script does not carry it and may let go.
        obtain ⟨rfl, hclosed⟩ := Classical.not_imp.1 hkept
        have hother : x ∈ p.scripts.eraseIdx i := List.mem_eraseIdx_iff_getElem?.2 ⟨j, Ne.symm hij, hj⟩
        have hnot := hcrossed ⟨hopen rfl, hclosed⟩ x hother
        exact ⟨none, Script.minds_of_not_carries hminds hnot, fun h => nomatch h⟩
  · -- The script that has to give up has no call to come; the alerts are as they were.
    intro x hx
    have hopen (h : p.store.AlertOpen id) : (p.step i).store.AlertOpen id :=
      h.congr (hstep ▸ p.backend.alerts_giveUp c)
    rw [hstep] at hx
    rcases List.mem_or_eq_of_mem_set hx with hmem | rfl
    · obtain ⟨hand, hminds, hhand⟩ := hattended x hmem
      exact ⟨hand, hminds, fun h => hopen (hhand h)⟩
    · exact ⟨none, trivial, fun h => nomatch h⟩

/-! ## Numbers -/

theorem knowsAlert_step (hknown : p.store.KnowsAlert id) (i : Nat) : (p.step i).store.KnowsAlert id := by
  rcases p.step_cases i with ⟨hsame, -⟩ | ⟨c, next, -, -, -, hstep⟩ | ⟨c, next, -, -, -, hstep⟩
  · rwa [hsame]
  · rw [hstep]
    exact FaultyStore.knowsAlert_perform hknown c
  · rw [hstep, Store.KnowsAlert, store, p.backend.alerts_giveUp c]
    exact hknown

theorem knowsAlert_run (hknown : p.store.KnowsAlert id) (schedule : List Nat) :
    (p.run schedule).store.KnowsAlert id := by
  induction schedule generalizing p with
  | nil => exact hknown
  | cons i schedule ih => exact ih (knowsAlert_step hknown i)

/-- If numbers fit at the end of a run, they fit at its start. -/
theorem fit_of_run {schedule : List Nat} (hfit : (p.run schedule).store.AlertNumbersFit) :
    p.store.AlertNumbersFit :=
  hfit.of_later fun _ hknown => knowsAlert_run hknown schedule

theorem oneOpen_run (hone : p.store.OneOpen) (schedule : List Nat) : (p.run schedule).store.OneOpen := by
  induction schedule generalizing p with
  | nil => exact hone
  | cons i schedule ih =>
      refine ih ?_
      rcases p.step_cases i with ⟨hsame, -⟩ | ⟨c, next, -, -, -, hstep⟩ | ⟨c, next, -, -, -, hstep⟩
      · rwa [hsame]
      · rw [hstep]
        exact FaultyStore.perform_stable Store.oneOpen_stable trivial hone
      · rw [hstep]
        exact FaultyStore.giveUp_stable Store.oneOpen_stable c hone

/-! ## Resolutions -/

/-- A resolved alert is in no hand, so no call writes over it. -/
theorem step_keeps_resolved (hattended : p.Attended a.id) (hfit : p.store.AlertNumbersFit)
    (hmem : a ∈ p.store.alerts.rows) (hresolved : a.isOpen = false) (i : Nat) :
    a ∈ (p.step i).store.alerts.rows := by
  rcases p.step_cases i with ⟨hsame, -⟩ | ⟨c, next, hnext, -, -, hstep⟩ | ⟨c, next, -, -, -, hstep⟩
  rotate_right
  · rwa [hstep, store, p.backend.alerts_giveUp c]
  · rwa [hsame]
  · rw [hstep]
    refine FaultyStore.mem_alerts_perform hfit hmem fun hwrites => ?_
    -- A call that wrote over it would have it in hand, and what is in a hand is open.
    obtain ⟨hand, hminds, hopen⟩ := hattended _ (List.mem_of_getElem? hnext)
    obtain ⟨b, hb, hid, hbopen⟩ := hopen (hminds.1 a.id hwrites)
    rw [Store.eq_of_id_eq hb hmem hid, hresolved] at hbopen
    cases hbopen

theorem attended_run {schedule : List Nat} (hattended : p.Attended id) (huncrossed : p.Uncrossed id schedule) :
    (p.run schedule).Attended id := by
  induction schedule generalizing p with
  | nil => exact hattended
  | cons i schedule ih => exact ih (attended_step hattended huncrossed.1) huncrossed.2

theorem run_keeps_resolved {schedule : List Nat} (hattended : p.Attended a.id)
    (huncrossed : p.Uncrossed a.id schedule) (hfit : (p.run schedule).store.AlertNumbersFit)
    (hmem : a ∈ p.store.alerts.rows) (hresolved : a.isOpen = false) :
    a ∈ (p.run schedule).store.alerts.rows := by
  induction schedule generalizing p with
  | nil => exact hmem
  | cons i schedule ih =>
      have hstart : p.store.AlertNumbersFit := fit_of_run hfit
      exact ih (attended_step hattended huncrossed.1) huncrossed.2 hfit
        (step_keeps_resolved hattended hstart hmem hresolved i)

/-- **Only a crossing copy undoes a resolution.**  Any number of tasks work on a store, and their calls come in any
order.  An alert that is resolved at some point of the run stays exactly as it is, provided that whenever a script
resolves it no other script carries a copy of it.  An alert that is open later on was open then too, or is a new
one.  Whatever the calls are, no entity ever gets a second open alert.  Alert numbers must not have reached the
greatest word, behind which there is no next one. -/
theorem resolutions_stand_unless_crossed (s : Store) (tasks : List AlertTask) (before after : List Nat)
    (hfit : ((start s tasks).run (before ++ after)).store.AlertNumbersFit) :
    let p := start s tasks
    let t := (p.run before).store
    let u := (p.run (before ++ after)).store
    (∀ a ∈ t.alerts.rows, a.isOpen = false → p.Uncrossed a.id (before ++ after) → a ∈ u.alerts.rows) ∧
    (∀ b ∈ u.alerts.rows, b.isOpen = true → p.Uncrossed b.id (before ++ after) →
      t.AlertOpen b.id ∨ ¬ t.KnowsAlert b.id) ∧
    (s.OneOpen → u.OneOpen) := by
  intro p t u
  have hrun : u = ((p.run before).run after).store := congrArg ScriptPool.store (p.run_append before after)
  have hstays : ∀ a ∈ t.alerts.rows, a.isOpen = false → p.Uncrossed a.id (before ++ after) → a ∈ u.alerts.rows := by
    intro a hmem hresolved huncrossed
    obtain ⟨hbefore, hafter⟩ := uncrossed_append.1 huncrossed
    have hfitRun : ((p.run before).run after).store.AlertNumbersFit := p.run_append before after ▸ hfit
    rw [hrun]
    exact run_keeps_resolved (attended_run (attended_start s tasks) hbefore) hafter hfitRun hmem hresolved
  refine ⟨hstays, fun b hmem hopen huncrossed => ?_, fun hone => oneOpen_run (p := p) hone (before ++ after)⟩
  by_cases hknown : t.KnowsAlert b.id
  · obtain ⟨a, ha, hid⟩ := hknown
    cases haopen : a.isOpen with
    | true => exact .inl ⟨a, ha, hid, haopen⟩
    | false =>
        -- If the alert of that number was resolved, it is resolved still.
        have hkept := hstays a ha haopen (hid ▸ huncrossed)
        rw [Store.eq_of_id_eq hkept hmem hid, hopen] at haopen
        cases haopen
  · exact .inr hknown

/-- A report that the first supplier is at high risk. -/
def highReport : AlertTask :=
  .reconcile ⟨.supplier ⟨1⟩, .high, .quality, "supplier_risk", "high"⟩ (.midnight Store.sampleDay)

/-- A buyer resolves the first alert. -/
def buyerResolves : AlertTask := .resolve ⟨1⟩ (some "buyer") (.midnight Store.sampleDay)

/-- The first supplier has one open alert. -/
def oneAlert : Store := { Store.empty with alerts := .ofList [Store.sampleAlert ⟨1⟩ false] }

/-- Two assessors and the buyer. -/
def threeTasks : List AlertTask := [highReport, buyerResolves, highReport]

/-- The buyer reads the alert, an assessor escalates it, and the buyer writes his copy back as resolved.  The first
report is lost, but the resolution stays; the next report opens a second alert. -/
theorem renewed_risk_opens_second_alert :
    (∃ a ∈ ((start oneAlert threeTasks).run ([1, 0, 0, 1] ++ [2, 2])).store.alerts.rows,
      a.id = ⟨1⟩ ∧ a.isOpen = false ∧ a.resolvedAt = some (.midnight Store.sampleDay) ∧ a.resolvedBy = some "buyer") ∧
    ((start oneAlert threeTasks).run ([1, 0, 0, 1] ++ [2, 2])).store.AlertOpen ⟨2⟩ ∧
    ¬ ((start oneAlert threeTasks).run [1, 0, 0, 1]).store.KnowsAlert ⟨2⟩ := by
  have hfit : ((start oneAlert threeTasks).run ([1, 0, 0, 1] ++ [2, 2])).store.AlertNumbersFit := by decide +kernel
  have horderly : ∀ id ∈ [⟨1⟩, ⟨2⟩], (start oneAlert threeTasks).Orderly id ([1, 0, 0, 1] ++ [2, 2]) := by
    decide +kernel
  have hresolved : ∃ a ∈ ((start oneAlert threeTasks).run [1, 0, 0, 1]).store.alerts.rows,
      a.id = ⟨1⟩ ∧ a.isOpen = false ∧ a.resolvedAt = some (.midnight Store.sampleDay) ∧
        a.resolvedBy = some "buyer" := by decide +kernel
  have habsent : ¬ ((start oneAlert threeTasks).run [1, 0, 0, 1]).store.AlertOpen ⟨2⟩ := by decide +kernel
  have hopen : ((start oneAlert threeTasks).run ([1, 0, 0, 1] ++ [2, 2])).store.AlertOpen ⟨2⟩ := by decide +kernel
  obtain ⟨hstays, hnew, -⟩ := resolutions_stand_unless_crossed oneAlert threeTasks [1, 0, 0, 1] [2, 2] hfit
  obtain ⟨a, hmem, hid, hclosed, hrest⟩ := hresolved
  have hkept := hstays a hmem hclosed (uncrossed_of_orderly (horderly a.id (by simp [hid])))
  refine ⟨⟨a, hkept, hid, hclosed, hrest⟩, hopen, ?_⟩
  obtain ⟨b, hb, hbid, hbopen⟩ := hopen
  have hthen := hnew b hb hbopen (uncrossed_of_orderly (horderly b.id (by simp [hbid])))
  rw [hbid] at hthen
  exact hthen.resolve_left habsent

/-- An assessor reads the alert, the buyer resolves it, and the assessor writes his copy back escalated.  The alert is
open again, and nothing is left of its resolution. -/
theorem stale_copy_reopens_alert :
    let p := start oneAlert [highReport, buyerResolves]
    oneAlert.OneOpen ∧
    (∃ a ∈ (p.run [0, 1, 1]).store.alerts.rows,
      a.id = ⟨1⟩ ∧ a.isOpen = false ∧ a.resolvedAt = some (.midnight Store.sampleDay) ∧ a.resolvedBy = some "buyer") ∧
    (p.run [0, 1, 1, 0]).store.alerts.rows.map (fun a => (a.id, a.isOpen, a.resolvedAt, a.resolvedBy)) =
      [(⟨1⟩, true, none, none)] := by
  decide +kernel

end ScriptPool

end SupplyRisk
