import SupplyRisk.Proofs.Engine.Shift

/-!
# Owed events are kept

An alert that opens at, or escalates to, high risk owes an event.  It goes on owing it through failed attempts,
runs and resolutions, until the event is logged and the alert refers to it: `Store.Accounts` holds after any
shifts.  An attempt that succeeds logs what the open alert of its entity owes, so afterwards every alert of a part
that was raised is accounted for, unless it was resolved while it owed its event (`raised_alerts_accounted_for`):
resolved alerts are not looked at again.
-/

namespace SupplyRisk

namespace Store

/-- The alert has opened at, or escalated to, high risk since the store was as given: it is at high risk, and it is
new or was below its level. -/
def RaisedSince (s : Store) (a : Alert) : Prop :=
  a.level.isHigh = true ∧ ∀ b ∈ s.alerts.rows, b.id = a.id → b.level < a.level

instance (s : Store) (a : Alert) : Decidable (s.RaisedSince a) :=
  inferInstanceAs (Decidable (a.level.isHigh = true ∧ ∀ b ∈ s.alerts.rows, b.id = a.id → b.level < a.level))

/-- The alert owes no event and refers to a stored one that affects its entity. -/
def Logged (s : Store) (a : Alert) : Prop :=
  a.eventPending = false ∧ ∃ event ∈ s.events.rows, a.event = some event.id ∧ event.Affects a.entity

/-- What holds of the alerts that were raised since the store was as given: one that is still open is the one that
is found for its entity, and one of a part owes its event or refers to it. -/
structure Accounts (s t : Store) : Prop where
  found : ∀ a ∈ t.alerts.rows, s.RaisedSince a → a.isOpen = true → t.openAlert a.entity = some a
  owedOrLogged : ∀ a ∈ t.alerts.rows, s.RaisedSince a → ∀ id, a.entity = .part id →
    a.eventPending = true ∨ t.Logged a

variable {s t u : Store} {a b : Alert}

theorem RaisedSince.becomes (hraised : s.RaisedSince a) (hbecomes : a.Becomes b) : s.RaisedSince b := by
  refine ⟨decide_eq_true (Level.le_trans (of_decide_eq_true hraised.1) hbecomes.level), fun c hc hid => ?_⟩
  exact Level.lt_of_lt_of_le (hraised.2 c hc (hid.trans hbecomes.id)) hbecomes.level

/-- At a level that did not change nothing was raised. -/
theorem RaisedSince.of_same (hraised : s.RaisedSince b) (hid : b.id = a.id) (hlevel : b.level = a.level) :
    s.RaisedSince a := by
  obtain ⟨hhigh, habove⟩ := hraised
  rw [hlevel] at hhigh
  rw [hid, hlevel] at habove
  exact ⟨hhigh, habove⟩

/-- Events that are logged stay in the log. -/
theorem Logged.shift (hlogged : s.Logged a) (hshift : s.Shift t) (hfit : s.EventNumbersFit) : t.Logged a := by
  obtain ⟨hsettled, event, hmem, hevent, haffects⟩ := hlogged
  refine ⟨hsettled, event, ?_, hevent, haffects⟩
  rcases hshift.events_cases with hsame | ⟨draft, hinsert⟩
  · rwa [hsame]
  · rw [hinsert, rows_insert_of_next rfl hfit]
    exact List.mem_append_left _ hmem

namespace Accounts

/-- In the store itself nothing has been raised yet. -/
theorem refl (s : Store) : s.Accounts s where
  found a hmem hraised := absurd (hraised.2 a hmem rfl) (Level.not_lt.2 (Level.le_refl a.level))
  owedOrLogged a hmem hraised := absurd (hraised.2 a hmem rfl) (Level.not_lt.2 (Level.le_refl a.level))

/-- Shifts go on finding an alert that was raised. -/
theorem found_shift (haccounts : s.Accounts t) (hshift : t.Shift u) :
    ∀ a ∈ u.alerts.rows, s.RaisedSince a → a.isOpen = true → u.openAlert a.entity = some a := by
  intro a hmem hraised hopen
  have hwritten {x : Alert} (hput : u.alerts = t.alerts.insert x) :
      u.openAlert a.entity = (t.putAlert x).openAlert a.entity := by
    rw [openAlert, hput]
    rfl
  rcases hshift.alerts_cases with hsame | ⟨x, hput, -, hxopen, hnone⟩ | ⟨b, x, hput, hb, hbecomes, hfound⟩
  · have hold := haccounts.found a (hsame ▸ hmem) hraised hopen
    rwa [openAlert, hsame]
  · rw [hwritten hput]
    rw [hput] at hmem
    rcases mem_alerts_insert_iff.1 hmem with rfl | ⟨hmem, hne⟩
    · exact openAlert_putAlert_of_none hnone hopen rfl
    · have hold := haccounts.found a hmem hraised hopen
      refine openAlert_putAlert_of_ne hold hne fun _ hentity => ?_
      -- The new alert is of another entity, since this one has an open alert.
      rw [hentity, hold] at hnone
      cases hnone
  · rw [hwritten hput]
    rw [hput] at hmem
    rcases mem_alerts_insert_iff.1 hmem with rfl | ⟨hmem, hne⟩
    · rw [hbecomes.entity]
      exact openAlert_putAlert_of_some (hfound hopen) hbecomes.id hopen hbecomes.entity
    · refine openAlert_putAlert_of_ne (haccounts.found a hmem hraised hopen) hne fun hxopen hentity => ?_
      exact ⟨b, hb, hbecomes.isOpen hxopen, hbecomes.entity.symm.trans hentity, hbecomes.id.symm⟩

/-- Shifts account for every alert of a part that was raised. -/
theorem owedOrLogged_shift (haccounts : s.Accounts t) (hshift : t.Shift u) (hfit : t.EventNumbersFit) :
    ∀ a ∈ u.alerts.rows, s.RaisedSince a → ∀ id, a.entity = .part id →
      a.eventPending = true ∨ u.Logged a := by
  have hold : ∀ a ∈ t.alerts.rows, s.RaisedSince a → ∀ id, a.entity = .part id →
      a.eventPending = true ∨ u.Logged a := fun a hmem hraised id hentity =>
    (haccounts.owedOrLogged a hmem hraised id hentity).imp_right fun hlogged => hlogged.shift hshift hfit
  cases hshift with
  | other hsame => rwa [hsame.alerts]
  | opens c now hnone => exact forall_putAlert hold fun hraised id hentity => .inl hraised.1
  | escalates c now hfound hlt =>
      exact forall_putAlert hold fun hraised id hentity => .inl (Bool.or_eq_true_iff.2 (.inr hraised.1))
  | @resolves now resolver b hmem =>
      exact forall_putAlert hold fun hraised => haccounts.owedOrLogged b hmem (hraised.of_same rfl rfl)
  | waives hfound =>
      refine forall_putAlert hold fun hraised id hentity => ?_
      cases (of_openAlert hfound).2.2.symm.trans hentity
  | @logs draft b hfound haffects hseverity =>
      exact forall_putAlert (s := (t.insertEvent draft).2) hold fun hraised id hentity =>
        .inr ⟨rfl, _, mem_insertRow_self _ t.events.rows, rfl, RiskEvent.affects_ofDraft.2 haffects⟩

/-- Alerts that were raised are accounted for after any shifts. -/
theorem of_shifts (hshifts : s.Shifts t) (hfit : t.EventNumbersFit) : s.Accounts t := by
  induction hshifts with
  | refl => exact refl s
  | tail _ hshift ih =>
      have hfit' := hshift.holds.2.fit hfit
      exact ⟨(ih hfit').found_shift hshift, (ih hfit').owedOrLogged_shift hshift hfit'⟩

end Accounts

end Store

/-- An open alert that is found after reconciling is the one that it hands on, if it was found before or is new. -/
theorem AlertContext.Reconciles.hands_on {c : AlertContext} {now : Instant} {s t : Store} {alert : Option Alert}
    {a : Alert} (hdoes : c.Reconciles now s alert t) (hfound : t.openAlert c.entity = some a)
    (hbefore : a ∈ s.alerts.rows → s.openAlert c.entity = some a) : alert = some a := by
  have hhanded := hdoes
  cases hdoes with
  | idle hnone hlow => cases hnone.symm.trans hfound
  | @opens b hnone hlevel hb =>
      have hopen : b.isOpen = true := by rw [hb]; rfl
      exact (hhanded.found hopen).symm.trans hfound
  | @resolves b hopen hlow =>
      obtain ⟨hmem, hisOpen, -⟩ := Store.of_openAlert hfound
      rcases Store.mem_alerts_insert_iff.1 hmem with rfl | ⟨hmem, hne⟩
      · cases hisOpen
      · cases (hbefore hmem).symm.trans hopen
        exact absurd rfl hne
  | @escalates b hopen hlt =>
      have hisOpen : (c.escalated b c.level now).isOpen = true := (Store.of_openAlert hopen).2.1
      exact (hhanded.found hisOpen).symm.trans hfound
  | keeps hopen hlow hle => exact hopen.symm.trans hfound

/-- What is owed on an alert is settled unless the event log fails. -/
theorem Logs.settled {alert : Option Alert} {triggered created : Bool} {draft : EventDraft} {f g : FaultyStore}
    (hlogs : Logs alert triggered draft f (.ok created, g)) :
    g = f ∧ (∀ a, alert = some a → ¬ a.Owes) ∨
      ∃ a event, alert = some a ∧ a.Owes ∧ g.store.alerts = f.store.alerts.insert (a.recordEvent event) := by
  cases hlogs with
  | idle hnone => exact .inl ⟨rfl, hnone⟩
  | waives halert howes htriggered => exact .inr ⟨_, none, halert, howes, rfl⟩
  | logs halert howes htriggered hfault => exact .inr ⟨_, _, halert, howes, rfl⟩

/-- The only part is still to be assessed, and its event will fail to be logged. -/
def FaultyStore.silentOnce : FaultyStore := ⟨Store.oneSource, { failingEventOnce := true }⟩

namespace Engine

variable {e : Engine} {entity : EntityRef} {f g : FaultyStore} {s : Store} {o : Outcome}

/-- Once an attempt has succeeded, no alert that was raised and is still open owes an event. -/
theorem Writes.none_owing (hwrites : e.Writes entity f (.ok o, g)) (hshifts : s.Shifts f.store)
    (hfit : g.store.EventNumbersFit) {a : Alert} (hmem : a ∈ g.store.alerts.rows) (hraised : s.RaisedSince a)
    (hentity : a.entity = entity) (hopen : a.isOpen = true) : a.eventPending = false := by
  have hend := hwrites.shifts
  have hfound := (Store.Accounts.of_shifts (hshifts.trans hend) hfit).found a hmem hraised hopen
  rw [hentity] at hfound
  generalize hended : (Except.ok o, g) = ended at hwrites
  cases hwrites with
  | nothing cause hsame => cases hended
  | @settles v x ended hsame hv hstored hsettles =>
      have hx := hshifts.trans (.of_sameLog hsame)
      have hafter : x.Shifts g.store := by
        rw [← hended] at hsettles
        exact hsettles.shifts
      -- The alert has not opened since: it was the open one before the attempt settled, if it was there.
      have hbefore : a ∈ x.alerts.rows → x.openAlert v.alert.entity = some a := by
        intro hmem
        rw [v.entity_alert, hv, ← hentity]
        exact (Store.Accounts.of_shifts hx (hafter.holds.2.fit hfit)).found a hmem hraised hopen
      subst hv
      cases hsettles with
      | lacks => cases hended
      | @of_reconciles alert t logged g' hreconciles hlogs =>
          cases logged with
          | error cause => cases hended
          | ok created =>
              cases hended
              rw [← v.entity_alert] at hfound
              -- Either nothing was owed, or the event is logged or waived and noted on the alert.
              rcases hlogs.settled with ⟨rfl, hidle⟩ | ⟨b, event, rfl, howes, hput⟩
              · have halert := hreconciles.hands_on hfound hbefore
                exact Bool.eq_false_iff.2 fun hpending => hidle a halert ⟨hopen, hpending⟩
              · have hopen' := Store.openAlert_putAlert_of_some (b := b.recordEvent event)
                  (hreconciles.found howes.1) rfl howes.1 (Store.of_openAlert (hreconciles.found howes.1)).2.2
                have hsame : g.store.openAlert v.alert.entity = some (b.recordEvent event) := by
                  rw [← hopen', Store.openAlert, hput]
                  rfl
                cases hsame.symm.trans hfound
                rfl

/-- **Owed events are kept.**  Let anything happen to a store: calls, repeated attempts, runs, upkeep, and faults of
any kind.  After a call to assess a part has succeeded, in one attempt or after retries, every alert of the part
that opened at, or escalated to, high risk since the start is still there, at no lower level.  Its event has been
logged, affects the part, and the alert refers to it; or else the alert was resolved while it owed its event, and
goes on owing it.  This goes for alerts that were raised on the way, and for those that the call itself raised.
Alert and event numbers must fit their word at the end. -/
theorem raised_alerts_accounted_for (f : FaultyStore) (before after : List Act) (e : Engine) (id : PartId)
    (call : FaultyStore → Except Halt Outcome × FaultyStore) (o : Outcome)
    (hcall : call = (e.reassess (.part id)).run ∨ ∃ late, call = e.reassessRepeatedly late (.part id))
    (hok : (call (f.afterActs (before ++ after))).1 = .ok o)
    (halerts : (call (f.afterActs (before ++ after))).2.store.AlertNumbersFit)
    (hevents : (call (f.afterActs (before ++ after))).2.store.EventNumbersFit) :
    let s := (f.afterActs before).store
    let t := (call (f.afterActs (before ++ after))).2.store
    (∀ a ∈ s.alerts.rows, a.entity = .part id → f.store.RaisedSince a →
      ∃ b ∈ t.alerts.rows, a.Becomes b ∧
        (t.Logged b ∨ b.isOpen = false ∧ b.eventPending = true)) ∧
    ∀ b ∈ t.alerts.rows, b.entity = .part id → f.store.RaisedSince b →
      t.Logged b ∨ b.isOpen = false ∧ b.eventPending = true := by
  intro s t
  have hwork (g : FaultyStore) (h : f.store.Shifts g.store) :
      f.store.Shifts ((e.reassess (.part id)).run g).2.store := h.trans (e.reassess_shifts (.part id) g)
  have hstart : f.store.Shifts (f.afterActs (before ++ after)).store := f.shifts_afterActs _
  have hmiddle : s.Shifts (f.afterActs (before ++ after)).store := by
    rw [FaultyStore.afterActs, List.foldl_append]
    exact (f.afterActs before).shifts_afterActs after
  have hlast : (f.afterActs (before ++ after)).store.Shifts t := by
    rcases hcall with rfl | ⟨late, rfl⟩
    · exact e.reassess_shifts (.part id) _
    · exact Act.shifts (.repeated e late (.part id)) _
  -- Repeated or not, the call ends with an attempt that succeeds.
  obtain ⟨f', hf', hrun⟩ : ∃ f', f.store.Shifts f'.store ∧
      (e.reassess (.part id)).run f' = (.ok o, (call (f.afterActs (before ++ after))).2) := by
    rcases hcall with rfl | ⟨late, rfl⟩
    · exact ⟨_, hstart, Prod.ext hok rfl⟩
    · obtain ⟨f', hf', hends⟩ := retryingUntil_ends e.config.retry late
        (I := fun g => f.store.Shifts g.store) hwork 0 0 _ hstart
      -- A call that succeeds was not too late.
      rcases hends with hends | hends
      · exact ⟨f', hf', hends.symm.trans (Prod.ext hok rfl)⟩
      · rw [Engine.reassessRepeatedly, hends] at hok
        cases hok
  have hwrites := e.reassess_writes (.part id) f'
  rw [hrun] at hwrites
  have haccounts := Store.Accounts.of_shifts (hstart.trans hlast) hevents
  have hend : ∀ b ∈ t.alerts.rows, b.entity = .part id → f.store.RaisedSince b →
      t.Logged b ∨ b.isOpen = false ∧ b.eventPending = true := by
    intro b hmem hentity hraised
    rcases haccounts.owedOrLogged b hmem hraised id hentity with hpending | hlogged
    · refine .inr ⟨Bool.eq_false_iff.2 fun hopen => ?_, hpending⟩
      rw [hwrites.none_owing hf' hevents hmem hraised hentity hopen] at hpending
      cases hpending
    · exact .inl hlogged
  refine ⟨fun a hmem hentity hraised => ?_, hend⟩
  obtain ⟨b, hb, hbecomes⟩ := (hmiddle.trans hlast).becomes halerts hmem
  exact ⟨b, hb, hbecomes, hend b hb (hbecomes.entity.trans hentity) (hraised.becomes hbecomes)⟩

/-- The event of the first attempt fails to be logged.  The next attempt logs it, and the alert refers to it. -/
theorem failed_event_is_logged_by_next_attempt :
    let e := standardOn ⟨19000, by decide, by decide⟩
    let t := ((e.reassess (.part ⟨10⟩)).run
      (FaultyStore.silentOnce.afterActs [.turn (.assess e (.part ⟨10⟩))])).2.store
    ∃ b ∈ t.alerts.rows, t.Logged b := by
  intro e t
  have hok : ((e.reassess (.part ⟨10⟩)).run
      (FaultyStore.silentOnce.afterActs [.turn (.assess e (.part ⟨10⟩))])).1 =
        .ok { highRisk := true, eventCreated := true } := by decide +kernel
  have halerts : t.AlertNumbersFit := by decide +kernel
  have hevents : t.EventNumbersFit := by decide +kernel
  obtain ⟨b, hmem, hentity, hopen, hraised⟩ : ∃ b ∈ t.alerts.rows, b.entity = .part ⟨10⟩ ∧
      b.isOpen = true ∧ FaultyStore.silentOnce.store.RaisedSince b := by decide +kernel
  obtain ⟨-, hends⟩ := raised_alerts_accounted_for FaultyStore.silentOnce
    [.turn (.assess e (.part ⟨10⟩))] [] e ⟨10⟩ _ _ (.inl rfl) hok halerts hevents
  rcases hends b hmem hentity hraised with hlogged | ⟨hresolved, -⟩
  · exact ⟨b, hmem, hlogged⟩
  · cases hresolved.symm.trans hopen

/-- A reviewer resolves the alert before the next attempt, which succeeds and logs an event.  The event is that of
a second alert: the resolved one goes on owing its own. -/
theorem resolved_alert_goes_on_owing :
    let e := standardOn ⟨19000, by decide, by decide⟩
    let f := FaultyStore.silentOnce.afterActs [.turn (.assess e (.part ⟨10⟩))]
    let last := (e.reassess (.part ⟨10⟩)).run
      (f.afterActs [.turn (.upkeep (.resolveAlert ⟨1⟩ (some "buyer") e.now))])
    last.1 = .ok { highRisk := true, eventCreated := true } ∧
      ∃ a ∈ f.store.alerts.rows, a.entity = .part ⟨10⟩ ∧ FaultyStore.silentOnce.store.RaisedSince a ∧
        ∃ b ∈ last.2.store.alerts.rows, b.id = a.id ∧ b.eventPending = true ∧ b.event = none := by
  decide +kernel

end Engine

end SupplyRisk
