import SupplyRisk.Engine.Assess
import SupplyRisk.Proofs.Alert.Reconcile

/-!
# Alerts that owe an event

The open alert that reconciling hands on is the one that the store finds for its entity (`Reconciles.found`), so
the event that it owes can always be settled on it.  What becomes of that event is one of the four results that
`Logs` lists; only a fault of the store keeps an alert owing.
-/

namespace SupplyRisk

/-- The alert opened or escalated to high risk, and its event is still to come. -/
def Alert.Owes (a : Alert) : Prop := a.isOpen = true ∧ a.eventPending = true

instance (a : Alert) : Decidable a.Owes :=
  inferInstanceAs (Decidable (a.isOpen = true ∧ a.eventPending = true))

namespace Store

variable {s : Store} {a b : Alert} {entity : EntityRef}

/-- What holds of all alerts and of one more that is written holds of all alerts after that. -/
theorem forall_putAlert {P : Alert → Prop} (hold : ∀ c ∈ s.alerts.rows, P c) (hwritten : P a) :
    ∀ c ∈ (s.putAlert a).alerts.rows, P c := by
  intro c hmem
  rcases mem_alerts_insert_iff.1 hmem with rfl | ⟨hmem, -⟩
  · exact hwritten
  · exact hold c hmem

/-- Of several open alerts of an entity, the store finds the one with the least number. -/
theorem openAlert_eq_some_iff_least :
    s.openAlert entity = some a ↔
      (a ∈ s.alerts.rows ∧ a.isOpen = true ∧ a.entity = entity) ∧
        ∀ b ∈ s.alerts.rows, b.isOpen = true → b.entity = entity →
          a.id.value.toNat ≤ b.id.value.toNat := by
  have hleast (c : Alert) (hfound : s.openAlert entity = some c) :
      ∀ b ∈ s.alerts.rows, b.isOpen = true → b.entity = entity →
        c.id.value.toNat ≤ b.id.value.toNat := by
    intro b hmem hopen hentity
    obtain ⟨-, before, after, hrows, hbefore⟩ := List.find?_eq_some_iff_append.1 hfound
    have hascending := s.alerts.ascending
    rw [hrows] at hmem hascending
    rcases List.mem_append.1 hmem with hmem | hmem
    · -- The rows before the one that is found do not match.
      have hnot := hbefore b hmem
      simp [hopen, hentity] at hnot
    · rcases List.mem_cons.1 hmem with rfl | hmem
      · exact Nat.le_refl _
      · have habove := (List.pairwise_cons.1 (List.pairwise_append.1 hascending).2.1).1
        exact Nat.le_of_lt (habove b hmem)
  constructor
  · intro hfound
    exact ⟨of_openAlert hfound, hleast a hfound⟩
  · rintro ⟨⟨hmem, hopen, hentity⟩, hle⟩
    obtain ⟨c, hfound⟩ := hasOpenAlert_iff.1 ⟨a, hmem, hopen, hentity⟩
    obtain ⟨hcmem, hcopen, hcentity⟩ := of_openAlert hfound
    have hid : a.id = c.id := AlertId.toNat_inj.1 (Nat.le_antisymm (hle c hcmem hcopen hcentity)
      (hleast c hfound a hmem hopen hentity))
    rw [hfound, Roster.eq_of_rank_eq hmem hcmem (AlertId.toNat_inj.2 hid)]

/-- An alert that is opened where none was open is found. -/
theorem openAlert_putAlert_of_none (hnone : s.openAlert entity = none) (hopen : a.isOpen = true)
    (hentity : a.entity = entity) : (s.putAlert a).openAlert entity = some a := by
  obtain ⟨b, hfound⟩ := hasOpenAlert_iff.1
    (⟨a, mem_insertRow_self a s.alerts.rows, hopen, hentity⟩ : (s.putAlert a).HasOpenAlert entity)
  obtain ⟨hmem, hbopen, hbentity⟩ := of_openAlert hfound
  rcases mem_alerts_insert_iff.1 hmem with rfl | ⟨hmem, -⟩
  · exact hfound
  · exact absurd ⟨b, hmem, hbopen, hbentity⟩ (openAlert_eq_none_iff.1 hnone)

/-- An alert that was found is found again after it has been written, as long as it is open. -/
theorem openAlert_putAlert_of_some (hfound : s.openAlert entity = some a) (hid : b.id = a.id)
    (hopen : b.isOpen = true) (hentity : b.entity = entity) :
    (s.putAlert b).openAlert entity = some b := by
  obtain ⟨-, hleast⟩ := openAlert_eq_some_iff_least.1 hfound
  refine openAlert_eq_some_iff_least.2
    ⟨⟨mem_insertRow_self b s.alerts.rows, hopen, hentity⟩, fun c hmem hcopen hcentity => ?_⟩
  rcases mem_alerts_insert_iff.1 hmem with rfl | ⟨hmem, -⟩
  · exact Nat.le_refl _
  · rw [hid]
    exact hleast c hmem hcopen hcentity

/-- The alert that was found is found again after another one has been written, unless that one takes over. -/
theorem openAlert_putAlert_of_ne (hfound : s.openAlert entity = some a) (hid : a.id ≠ b.id)
    (hother : b.isOpen = true → b.entity = entity →
      ∃ c ∈ s.alerts.rows, c.isOpen = true ∧ c.entity = entity ∧ c.id = b.id) :
    (s.putAlert b).openAlert entity = some a := by
  obtain ⟨⟨hmem, hopen, hentity⟩, hleast⟩ := openAlert_eq_some_iff_least.1 hfound
  refine openAlert_eq_some_iff_least.2
    ⟨⟨mem_alerts_insert_iff.2 (.inr ⟨hmem, hid⟩), hopen, hentity⟩, fun d hd hdopen hdentity => ?_⟩
  rcases mem_alerts_insert_iff.1 hd with rfl | ⟨hd, -⟩
  · obtain ⟨c, hc, hcopen, hcentity, hcid⟩ := hother hdopen hdentity
    rw [← hcid]
    exact hleast c hc hcopen hcentity
  · exact hleast d hd hdopen hdentity

end Store

/-- Reconciling writes one alert at most. -/
theorem AlertContext.Reconciles.store {c : AlertContext} {now : Instant} {s t : Store}
    {alert : Option Alert} (hdoes : c.Reconciles now s alert t) :
    t = s ∨ ∃ a, t = s.putAlert a := by
  cases hdoes with
  | idle => exact .inl rfl
  | opens => exact .inr ⟨_, rfl⟩
  | resolves => exact .inr ⟨_, rfl⟩
  | escalates => exact .inr ⟨_, rfl⟩
  | keeps => exact .inl rfl

theorem AlertContext.Reconciles.events {c : AlertContext} {now : Instant} {s t : Store}
    {alert : Option Alert} (hdoes : c.Reconciles now s alert t) : t.events = s.events := by
  rcases hdoes.store with rfl | ⟨a, rfl⟩
  · rfl
  · rfl

/-- The open alert that reconciling hands on is the one that is found for its entity. -/
theorem AlertContext.Reconciles.found {c : AlertContext} {now : Instant} {s t : Store} {a : Alert}
    (hdoes : c.Reconciles now s (some a) t) (hopen : a.isOpen = true) :
    t.openAlert c.entity = some a := by
  cases hdoes with
  | opens hnone hlevel ha =>
      subst ha
      exact Store.openAlert_putAlert_of_none hnone rfl rfl
  | resolves hfound hlow => cases hopen
  | escalates hfound hlt =>
      exact Store.openAlert_putAlert_of_some hfound rfl hopen (Store.of_openAlert hfound).2.2
  | keeps hfound hlow hle => exact hfound

/-! ## Settling what is owed -/

/-- The store after an event has been logged and recorded on the alert that owed it. -/
def Store.logFor (s : Store) (draft : EventDraft) (a : Alert) : Store :=
  (s.insertEvent draft).2.putAlert (a.recordEvent (some (s.insertEvent draft).1.id))

/-- What logging the event of an alert can make of a store. -/
inductive Logs (alert : Option Alert) (triggered : Bool) (draft : EventDraft) (f : FaultyStore) :
    Except Halt Bool × FaultyStore → Prop
  /-- Nothing is owed. -/
  | idle (hnone : ∀ a, alert = some a → ¬ a.Owes) : Logs alert triggered draft f (.ok false, f)
  /-- The event is not called for, and the alert owes it no longer. -/
  | waives {a : Alert} (halert : alert = some a) (howes : a.Owes) (htriggered : triggered = false) :
      Logs alert triggered draft f
        (.ok false, { f with store := f.store.putAlert (a.recordEvent none) })
  | logs {a : Alert} (halert : alert = some a) (howes : a.Owes) (htriggered : triggered = true)
      (hfault : f.faults.failingEventOnce = false) (hroom : Store.hasNext f.store.events = true) :
      Logs alert triggered draft f
        (.ok true, { f with store := f.store.logFor draft a })
  /-- The event cannot be logged, and the alert goes on owing it. -/
  | fails {a : Alert} (message : String) (halert : alert = some a) (howes : a.Owes)
      (htriggered : triggered = true) (hfault : f.faults.failingEventOnce = true) :
      Logs alert triggered draft f (.error (.failure (.transient message)),
        { f with faults := { f.faults with failingEventOnce := false } })
  /-- There is no number for the event, and the alert goes on owing it. -/
  | lacks {a : Alert} (halert : alert = some a) (howes : a.Owes) (htriggered : triggered = true)
      (hfault : f.faults.failingEventOnce = false) (hfull : Store.hasNext f.store.events = false) :
      Logs alert triggered draft f (.error .word, f)

/-- There are no other results, since the alert has no rival. -/
theorem logPendingEvent_logs {alert : Option Alert} {f : FaultyStore}
    (hfound : ∀ a, alert = some a → a.isOpen = true → f.store.openAlert a.entity = some a)
    (triggered : Bool) (draft : EventDraft) :
    Logs alert triggered draft f ((logPendingEvent alert triggered draft).run f) := by
  cases alert with
  | none => exact .idle fun a ha => by cases ha
  | some a =>
      by_cases howes : a.Owes
      · have hfound := hfound a rfl howes.1
        have hguard : (a.isOpen && a.eventPending) = true := by rw [howes.1, howes.2]; rfl
        simp only [logPendingEvent, if_pos hguard]
        cases htriggered : triggered with
        | false =>
            have hupdate := Script.run_ask_updateAlert
              (Store.updateAlert_of_openAlert hfound (b := a.recordEvent none) rfl rfl)
            simp only [Bool.false_eq_true, if_false, Script.run_bind_of_ok hupdate]
            exact .waives rfl howes rfl
        | true =>
            simp only [if_true]
            by_cases hroom : f.hasRoom (.insertEvent draft) = true
            rotate_left
            · obtain ⟨hfull, event, hanswer⟩ := FaultyStore.not_hasRoom_iff.1 hroom rfl
              have hfault : f.faults.failingEventOnce = false := by
                refine Bool.eq_false_iff.2 fun hfault => ?_
                simp only [FaultyStore.perform, hfault, if_true] at hanswer
                cases hanswer
              rw [Script.run_bind_of_error (Script.run_ask_of_full hroom)]
              exact .lacks rfl howes rfl hfault hfull
            rw [Script.run_bind, Script.run_ask hroom]
            cases hfault : f.faults.failingEventOnce with
            | true =>
                simp only [FaultyStore.perform, hfault, if_true]
                exact .fails _ rfl howes rfl hfault
            | false =>
                have hnumber := (FaultyStore.hasRoom_cases hroom).2
                simp only [FaultyStore.perform, hfault, Bool.false_eq_true, if_false] at hnumber ⊢
                -- A new event changes no alert, so the alert is found in the same place.
                have hupdate := Script.run_ask_updateAlert
                  (f := { f with store := (f.store.insertEvent draft).2 })
                  (Store.updateAlert_of_openAlert hfound
                    (b := a.recordEvent (some (f.store.insertEvent draft).1.id)) rfl rfl)
                have hinsert : f.pass (.insertEvent draft) =
                    (.ok (f.store.insertEvent draft).1,
                      { f with store := (f.store.insertEvent draft).2 }) := FaultyStore.pass_of_ok rfl
                rw [hinsert] at hnumber
                simp only [hinsert, Script.run_bind_of_ok hupdate]
                exact .logs rfl howes rfl hfault (hnumber.resolve_right (by rintro ⟨e, ⟨⟩⟩))
      · have hguard : ¬ (a.isOpen && a.eventPending) = true := by simpa [Alert.Owes] using howes
        simp only [logPendingEvent, if_neg hguard]
        refine .idle fun b hb => ?_
        cases hb
        exact howes

end SupplyRisk
