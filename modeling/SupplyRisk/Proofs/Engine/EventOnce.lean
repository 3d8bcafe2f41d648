import SupplyRisk.Proofs.Engine.Replay
import SupplyRisk.Proofs.Engine.Upkeep
import SupplyRisk.Proofs.Engine.Writes

/-!
# Events are logged once

On a store without faults an attempt that gets past its save settles the event that it owes before it ends.  So
events and raised alerts go together: an assessment logs one event when the alert of its entity opened at, or
escalated to, high risk in that very call and the saved record calls for an event, and otherwise none
(`Verdict.settle_once`).  Over calls in any order the log grows by as many events as there were such calls
(`events_logged_once`).  A call that finds no number left for what it writes ends the program, so nothing is said of
what comes behind it.
-/

namespace SupplyRisk

/-! ## Raised alerts -/

namespace Store

/-- The level that the open alert of an entity shows. -/
def openLevel? (s : Store) (entity : EntityRef) : Option Level := (s.openAlert entity).map (·.level)

/-- From the first store to the second one the alert of the entity opened at, or escalated to, high risk. -/
def raisedHigh (s t : Store) (entity : EntityRef) : Bool :=
  match t.openLevel? entity with
  | none => false
  | some level => level.isHigh && (s.openLevel? entity).all (fun before => decide (before < level))

/-- No open alert owes an event. -/
def NoneOwed (s : Store) : Prop := ∀ a ∈ s.alerts.rows, ¬ a.Owes

instance (s : Store) : Decidable s.NoneOwed :=
  inferInstanceAs (Decidable (∀ a ∈ s.alerts.rows, ¬ a.Owes))

variable {s t u : Store} {a : Alert} {entity : EntityRef}

theorem openLevel?_of_openAlert (hfound : s.openAlert entity = some a) :
    s.openLevel? entity = some a.level := congrArg (Option.map _) hfound

theorem openLevel?_of_none (hnone : s.openAlert entity = none) : s.openLevel? entity = none :=
  congrArg (Option.map _) hnone

theorem raisedHigh_of_none (hnone : t.openAlert entity = none) : s.raisedHigh t entity = false := by
  rw [raisedHigh, openLevel?_of_none hnone]

/-- An alert that shows what it showed before has not been raised. -/
theorem raisedHigh_of_same (hsame : t.openLevel? entity = s.openLevel? entity) :
    s.raisedHigh t entity = false := by
  unfold raisedHigh
  rw [hsame]
  cases s.openLevel? entity with
  | none => rfl
  | some level => simp [Level.le_refl]

/-- Only the levels of open alerts matter. -/
theorem raisedHigh_congr (hsame : u.openLevel? entity = t.openLevel? entity) :
    s.raisedHigh u entity = s.raisedHigh t entity := by
  rw [raisedHigh, raisedHigh, hsame]

/-- Once the only open alert of an entity is resolved, none is open. -/
theorem openAlert_of_resolved (hone : s.OneOpen) (hfound : s.openAlert entity = some a) (now : Instant)
    (resolver : Option String) : (s.putAlert (a.resolve now resolver)).openAlert entity = none := by
  obtain ⟨hmem, hopen, hentity⟩ := of_openAlert hfound
  refine openAlert_eq_none_iff.2 ?_
  rintro ⟨b, hb, hbopen, hbentity⟩
  rcases mem_alerts_insert_iff.1 hb with rfl | ⟨hb, hne⟩
  · cases hbopen
  · have hsame : b = a := hone b hb a hmem hbopen hopen (hbentity.trans hentity.symm)
    rw [hsame] at hne
    exact hne rfl

end Store

namespace AlertContext.Reconciles

variable {c : AlertContext} {now : Instant} {s t u : Store} {alert : Option Alert}

/-- Where nothing was owed, reconciling raises the alert exactly when the alert it hands on owes an event. -/
theorem raisedHigh_iff (hone : s.OneOpen) (hnone : s.NoneOwed) (hdoes : c.Reconciles now s alert t) :
    s.raisedHigh t c.entity = true ↔ ∃ a, alert = some a ∧ a.Owes := by
  -- An alert that was open before owes nothing.
  have hown {a : Alert} (hfound : s.openAlert c.entity = some a) : a.eventPending = false :=
    Bool.eq_false_iff.2 fun hpending =>
      hnone a (Store.of_openAlert hfound).1 ⟨(Store.of_openAlert hfound).2.1, hpending⟩
  cases hdoes with
  | idle hfree hlow => simp [Store.raisedHigh_of_none hfree]
  | @opens a hfree hlevel ha =>
      have hopen : a.isOpen = true := by rw [ha]; rfl
      have hshows : a.level = c.level := by rw [ha]; rfl
      have hpending : a.eventPending = c.level.isHigh := by rw [ha]; rfl
      have hfound := Store.openLevel?_of_openAlert
        (Store.openAlert_putAlert_of_none hfree hopen (by rw [ha]; rfl))
      simp only [Store.raisedHigh, hfound, Store.openLevel?_of_none hfree, Option.all_none, Bool.and_true,
        hshows]
      constructor
      · intro hhigh
        exact ⟨a, rfl, hopen, hpending.trans hhigh⟩
      · rintro ⟨b, hb, -, hb'⟩
        cases hb
        exact hpending.symm.trans hb'
  | @resolves a hfound hlow =>
      rw [Store.raisedHigh_of_none (Store.openAlert_of_resolved hone hfound now none)]
      constructor
      · intro hraised
        cases hraised
      · rintro ⟨b, hb, hopen, -⟩
        cases hb
        cases hopen
  | @escalates a hfound hlt =>
      have hopen : (c.escalated a c.level now).isOpen = true := (Store.of_openAlert hfound).2.1
      have hfound' := Store.openLevel?_of_openAlert
        (Store.openAlert_putAlert_of_some (b := c.escalated a c.level now) hfound rfl hopen
          (Store.of_openAlert hfound).2.2)
      have hpending : (c.escalated a c.level now).eventPending = c.level.isHigh := by
        show (a.eventPending || c.level.isHigh) = c.level.isHigh
        rw [hown hfound, Bool.false_or]
      have hall : (Option.all (fun before => decide (before < c.level)) (some a.level)) = true :=
        decide_eq_true hlt
      have hlevel : (c.escalated a c.level now).level = c.level := rfl
      simp only [Store.raisedHigh, hfound', Store.openLevel?_of_openAlert hfound, hlevel, hall, Bool.and_true]
      constructor
      · intro hhigh
        exact ⟨_, rfl, hopen, hpending.trans hhigh⟩
      · rintro ⟨b, hb, -, hb'⟩
        cases hb
        exact hpending.symm.trans hb'
  | keeps hfound hlow hle =>
      rw [Store.raisedHigh_of_same rfl]
      constructor
      · intro hraised
        cases hraised
      · rintro ⟨b, hb, howes⟩
        cases hb
        exact absurd howes (hnone _ (Store.of_openAlert hfound).1)

/-- Where nothing was owed, the alert that reconciling hands on is the only one that can owe an event. -/
theorem owes_only (hnone : s.NoneOwed) (hdoes : c.Reconciles now s alert t) {b : Alert}
    (hmem : b ∈ t.alerts.rows) (howes : b.Owes) : alert = some b ∧ c.level.isHigh = true := by
  have hput {x : Alert} (hmem : b ∈ (s.putAlert x).alerts.rows) : b = x := by
    rcases Store.mem_alerts_insert_iff.1 hmem with rfl | ⟨hmem, -⟩
    · rfl
    · exact absurd howes (hnone b hmem)
  cases hdoes with
  | idle hfree hlow => exact absurd howes (hnone b hmem)
  | opens hfree hlevel ha =>
      cases hput hmem
      rw [ha] at howes
      exact ⟨rfl, howes.2⟩
  | resolves hfound hlow =>
      cases hput hmem
      cases howes.1
  | @escalates a hfound hlt =>
      cases hput hmem
      refine ⟨rfl, ?_⟩
      rcases Bool.or_eq_true_iff.1 howes.2 with hpending | hhigh
      · exact absurd ⟨(Store.of_openAlert hfound).2.1, hpending⟩ (hnone a (Store.of_openAlert hfound).1)
      · exact hhigh
  | keeps hfound hlow hle => exact absurd howes (hnone b hmem)

/-- Recording an event on the alert changes no level, and settles the only debt there is. -/
theorem after_recordEvent {a : Alert} (hone : s.OneOpen) (hnone : s.NoneOwed)
    (hdoes : c.Reconciles now s (some a) t) (howes : a.Owes) (event : Option EventId)
    (hu : u.alerts = t.alerts.insert (a.recordEvent event)) :
    u.openAlert c.entity = some (a.recordEvent event) ∧ s.raisedHigh u c.entity = true ∧ u.NoneOwed := by
  have hfound := hdoes.found howes.1
  have hput : (t.putAlert (a.recordEvent event)).openAlert c.entity = some (a.recordEvent event) :=
    Store.openAlert_putAlert_of_some hfound rfl howes.1 (Store.of_openAlert hfound).2.2
  have hopen : u.openAlert c.entity = some (a.recordEvent event) := by
    rw [← hput, Store.openAlert, hu]
    rfl
  refine ⟨hopen, ?_, fun b hmem hb => ?_⟩
  · rw [← (hdoes.raisedHigh_iff hone hnone).2 ⟨a, rfl, howes⟩]
    refine Store.raisedHigh_congr ?_
    rw [Store.openLevel?_of_openAlert hopen, Store.openLevel?_of_openAlert hfound]
    rfl
  · rw [hu, Store.mem_alerts_insert_iff] at hmem
    rcases hmem with rfl | ⟨hmem, hne⟩
    · cases hb.2
    · cases (hdoes.owes_only hnone hmem hb).1
      exact hne rfl

end AlertContext.Reconciles

/-! ## One assessment -/

/-- Whether an alert that is raised calls for an event: always for a part, from its threshold on for a supplier. -/
def RiskRecord.callsForEvent : RiskRecord → Bool
  | supplier record => record.isAlertTriggered
  | part _ => true

theorem Verdict.callsForEvent_next (v : Verdict) : v.record.next.callsForEvent = v.triggered := by
  cases v <;> rfl

/-- Whether an event is due for what happened between the two stores: the alert of the entity was raised to high
risk, and the record that is stored by then calls for an event. -/
def Store.eventDue (s t : Store) (entity : EntityRef) : Bool :=
  s.raisedHigh t entity && (t.riskRecord? entity).any RiskRecord.callsForEvent

theorem Store.eventDue_of_sameLog {s t : Store} (hsame : s.SameLog t) (entity : EntityRef) :
    s.eventDue t entity = false := by
  have hlevel : t.openLevel? entity = s.openLevel? entity := congrArg (Option.map _) (hsame.openAlert entity)
  rw [eventDue, raisedHigh_of_same hlevel, Bool.false_and]

/-- The event that an assessment logs when one is due: it is new, shows the saved level, affects the entity, and
the open alert of the entity refers to it. -/
structure Store.LogsFor (s t : Store) (entity : EntityRef) (event : RiskEvent) : Prop where
  room : hasNext s.events = true
  events : t.events = s.events.insert event
  id : event.id = ⟨nextNumber s.events⟩
  affects : event.Affects entity
  severity : ∃ r, t.riskRecord? entity = some r ∧ event.severity = r.level ∧ r.level.isHigh = true
  alert : ∃ a, t.openAlert entity = some a ∧ a.event = some event.id

/-- A new event stands behind all others. -/
theorem Store.LogsFor.rows {s t : Store} {entity : EntityRef} {event : RiskEvent} (hlogs : s.LogsFor t entity event) :
    t.events.rows = s.events.rows ++ [event] := by
  rw [hlogs.events]
  exact rows_insert_of_next (congrArg (·.value.toNat) hlogs.id) (hasNext_iff.1 hlogs.room)

/-- One event is logged if it is due, and none otherwise. -/
inductive Store.LogsOnce (s t : Store) (entity : EntityRef) : Bool → Prop
  | due {event : RiskEvent} (hdue : s.eventDue t entity = true) (hlogs : s.LogsFor t entity event) :
      LogsOnce s t entity true
  | notDue (hdue : s.eventDue t entity = false) (hevents : t.events = s.events) : LogsOnce s t entity false

/-- Reads and saves of records before the alert is touched make no difference. -/
theorem Store.LogsOnce.of_sameLog {s s' t : Store} {entity : EntityRef} {created : Bool}
    (honce : s'.LogsOnce t entity created) (hsame : s.SameLog s') : s.LogsOnce t entity created := by
  have hdue : s.eventDue t entity = s'.eventDue t entity := by
    rw [eventDue, eventDue, raisedHigh, raisedHigh, openLevel?, openLevel?, openLevel?, hsame.openAlert]
  cases honce with
  | due hdue' hlogs =>
      refine .due (hdue.trans hdue') ⟨?_, ?_, ?_, hlogs.affects, hlogs.severity, hlogs.alert⟩
      · rw [← hsame.events, hlogs.room]
      · rw [← hsame.events, hlogs.events]
      · rw [← hsame.events, hlogs.id]
  | notDue hdue' hevents => exact .notDue (hdue.trans hdue') (hevents.trans hsame.events)

namespace Verdict

variable {v : Verdict} {now : Instant} {s : Store} {entity : EntityRef}

/-- Without faults, settling a verdict logs the event that is due and leaves nothing owed, unless there is no number
left. -/
theorem settle_once (hentity : v.record.entity = entity) (hstored : s.riskRecord? entity = some v.record.next)
    (hone : s.OneOpen) (hnone : s.NoneOwed) {ended : Except Halt Outcome × FaultyStore}
    (hsettles : v.Settles now (.plain s) ended) :
    (∃ created t, ended = (.ok (v.outcome created), .plain t) ∧ t.NoneOwed ∧ s.LogsOnce t entity created) ∨
      ended.1 = .error .word := by
  subst hentity
  cases hsettles with
  | lacks => exact .inr rfl
  | @of_reconciles alert t logged g hreconciles hlogs =>
    -- Nothing was owed before, so the alert owes an event exactly if it was raised just now.
    have hraised := hreconciles.raisedHigh_iff hone hnone
    rw [entity_alert] at hraised
    have hrisk := (hreconciles.riskRecord? v.record.entity).trans hstored
    have hevents : t.events = s.events := hreconciles.events
    cases hlogs with
    | idle hidle =>
        refine .inl ⟨false, t, rfl, fun b hmem hb => hidle b (hreconciles.owes_only hnone hmem hb).1 hb,
          .notDue ?_ hevents⟩
        have hnot : s.raisedHigh t v.record.entity = false := by
          refine Bool.eq_false_iff.2 fun hraise => ?_
          obtain ⟨a, halert, howes⟩ := hraised.1 hraise
          exact hidle a halert howes
        rw [Store.eventDue, hnot, Bool.false_and]
    | @waives a halert howes htriggered =>
        subst halert
        obtain ⟨-, -, hnone'⟩ := hreconciles.after_recordEvent (u := t.putAlert (a.recordEvent none)) hone hnone
          howes none rfl
        refine .inl ⟨false, _, rfl, hnone', .notDue ?_ hevents⟩
        rw [Store.eventDue, Store.riskRecord?_putAlert, hrisk, Option.any_some, callsForEvent_next,
          htriggered, Bool.and_false]
    | @logs a halert howes htriggered hfault hroom =>
        subst halert
        have hrisk' : (t.logFor v.event a).riskRecord? v.record.entity = some v.record.next := by
          rw [← hrisk, Store.logFor, Store.riskRecord?_putAlert]
          cases v.record.entity <;> rfl
        obtain ⟨hopen, hraise, hnone'⟩ := hreconciles.after_recordEvent (u := t.logFor v.event a) hone hnone
          howes _ rfl
        rw [entity_alert] at hopen hraise
        have hhigh := (hreconciles.owes_only hnone (Store.of_openAlert (hreconciles.found howes.1)).1 howes).2
        rw [level_alert] at hhigh
        have hevents' : (t.logFor v.event a).events =
            s.events.insert (.ofDraft ⟨Store.nextNumber s.events⟩ v.event) := by
          rw [← hevents]
          rfl
        refine .inl ⟨true, _, rfl, hnone', .due ?_ ⟨?_, hevents', rfl, RiskEvent.affects_ofDraft.2 v.affects_event,
          ⟨_, hrisk', ?_, ?_⟩, ⟨_, hopen, ?_⟩⟩⟩
        · rw [Store.eventDue, hraise, hrisk', Option.any_some, callsForEvent_next, htriggered]
          rfl
        · rw [← hevents]
          exact hroom
        · rw [RiskRecord.level_next]
          exact v.severity_event
        · rwa [RiskRecord.level_next]
        · rw [← hevents]
          rfl
    | fails message halert howes htriggered hfault => cases hfault
    | lacks => exact .inr rfl

end Verdict

/-- An assessment without faults logs an event once if it is due, or stops and leaves alerts and events alone, or finds
no number left. -/
theorem Engine.reassess_once (e : Engine) (entity : EntityRef) {s : Store} (hone : s.OneOpen)
    (hnone : s.NoneOwed) :
    (∃ cause t, (e.reassess entity).run (.plain s) = (.error cause, .plain t) ∧ s.SameLog t) ∨
      (∃ o t, (e.reassess entity).run (.plain s) = (.ok o, .plain t) ∧ t.NoneOwed ∧
        s.LogsOnce t entity o.eventCreated) ∨
      ((e.reassess entity).run (.plain s)).1 = .error .word := by
  have hwrites := e.reassess_writes entity (.plain s)
  have hplain := (e.reassess entity).run_plain s
  generalize (e.reassess entity).run (.plain s) = ended at hwrites hplain ⊢
  cases hwrites with
  | @nothing cause g hsame => exact .inl ⟨cause, g.store, Prod.ext rfl hplain, hsame⟩
  | @settles v u _ hsame hentity hstored hsettles =>
      have hone' : u.OneOpen := hone.congr hsame.alerts
      have hnone' : u.NoneOwed := by
        unfold Store.NoneOwed
        rw [hsame.alerts]
        exact hnone
      rcases v.settle_once hentity hstored hone' hnone' hsettles with ⟨created, t, hended, hnoneT, honce⟩ | hword
      · exact .inr (.inl ⟨v.outcome created, t, hended, hnoneT, honce.of_sameLog hsame⟩)
      · exact .inr (.inr hword)

/-! ## Calls in any order -/

namespace Store

/-- What a call on a store without faults leaves behind. -/
def afterTurn (s : Store) (turn : Turn) : Store := (turn.after (.plain s)).store

def afterTurns (s : Store) (turns : List Turn) : Store :=
  (turns.foldl Turn.after (.plain s)).store

/-- The call does not find the numbers or versions used up. -/
def Returns (s : Store) : Turn → Prop
  | .assess e entity => ((e.reassess entity).run (.plain s)).1 ≠ .error .word
  | .upkeep _ => True

instance (s : Store) : ∀ turn, Decidable (s.Returns turn)
  | .assess e entity => inferInstanceAs (Decidable (((e.reassess entity).run (.plain s)).1 ≠ .error .word))
  | .upkeep _ => isTrue trivial

/-- None of the calls finds the numbers or versions used up. -/
def AllReturn : Store → List Turn → Prop
  | _, [] => True
  | s, turn :: turns => s.Returns turn ∧ AllReturn (s.afterTurn turn) turns

instance decidableAllReturn : ∀ (s : Store) (turns : List Turn), Decidable (s.AllReturn turns)
  | _, [] => isTrue trivial
  | s, turn :: turns =>
      have := decidableAllReturn (s.afterTurn turn) turns
      inferInstanceAs (Decidable (_ ∧ _))

/-- Whether an event is due for a call. -/
def isDue (s : Store) : Turn → Bool
  | .assess e entity => s.eventDue (s.afterTurn (.assess e entity)) entity
  | .upkeep _ => false

/-- The number of calls for which an event is due. -/
def dueCount : Store → List Turn → Nat
  | _, [] => 0
  | s, turn :: turns => (s.isDue turn).toNat + dueCount (s.afterTurn turn) turns

end Store

/-- A store without faults stays one. -/
theorem Turn.after_plain (turn : Turn) (s : Store) : turn.after (.plain s) = .plain (s.afterTurn turn) := by
  cases turn with
  | assess e entity => exact (e.reassess entity).run_plain s
  | upkeep work =>
      cases work with
      | restock inventory => rfl
      | setFlags id longLeadTime highValue => exact Script.run_plain _ s
      | importRow row => exact row.apply.run_plain s
      | resolveAlert id resolver now => exact Script.run_plain _ s

namespace Store

variable {s t : Store}

theorem afterTurns_cons (s : Store) (turn : Turn) (turns : List Turn) :
    s.afterTurns (turn :: turns) = (s.afterTurn turn).afterTurns turns := by
  rw [afterTurns, List.foldl_cons, turn.after_plain, afterTurns]

theorem oneOpen_afterTurn (hone : s.OneOpen) (turn : Turn) : (s.afterTurn turn).OneOpen := by
  cases turn with
  | assess e entity => exact Script.run_stable oneOpen_stable (Script.only_all _) (.plain s) hone
  | upkeep work => exact work.after_stable (f := .plain s) oneOpen_stable (fun _ _ hone => hone.congr rfl) hone

/-- A call logs an event once if it is due, and leaves nothing owed. -/
theorem turn_once (hone : s.OneOpen) (hnone : s.NoneOwed) {turn : Turn} (hreturns : s.Returns turn) :
    (s.afterTurn turn).NoneOwed ∧
      (s.isDue turn = true ∧ (∃ event, (s.afterTurn turn).events = s.events.insert event ∧
        (s.afterTurn turn).events.rows = s.events.rows ++ [event]) ∨
      s.isDue turn = false ∧ (s.afterTurn turn).events = s.events) := by
  -- What leaves alerts alone leaves nothing owed.
  have hsameLog (hsame : s.SameLog (s.afterTurn turn)) : (s.afterTurn turn).NoneOwed := by
    unfold NoneOwed
    rw [hsame.alerts]
    exact hnone
  cases turn with
  | assess e entity =>
      rcases e.reassess_once entity hone hnone with
        ⟨cause, t, hrun, hsame⟩ | ⟨o, t, hrun, hnoneT, honce⟩ | hword
      · have hafter : s.afterTurn (.assess e entity) = t := by rw [afterTurn, Turn.after, hrun]; rfl
        rw [hafter] at hsameLog ⊢
        refine ⟨hsameLog hsame, .inr ⟨?_, hsame.events⟩⟩
        rw [isDue, hafter]
        exact eventDue_of_sameLog hsame entity
      · have hafter : s.afterTurn (.assess e entity) = t := by rw [afterTurn, Turn.after, hrun]; rfl
        rw [isDue, hafter]
        refine ⟨hnoneT, ?_⟩
        generalize o.eventCreated = created at honce
        cases honce with
        | @due event hdue hlogs => exact .inl ⟨hdue, event, hlogs.events, hlogs.rows⟩
        | notDue hdue hevents => exact .inr ⟨hdue, hevents⟩
      · exact absurd hword hreturns
  | upkeep work =>
      rcases work.after_cases (.plain s) with hsame | ⟨a, now, resolver, hmem, hopen, hput⟩
      · exact ⟨hsameLog hsame, .inr ⟨rfl, hsame.events⟩⟩
      · have hafter : s.afterTurn (.upkeep work) = s.putAlert (a.resolve now resolver) := hput
        rw [hafter]
        exact ⟨forall_putAlert hnone (fun howes => Bool.false_ne_true howes.1), .inr ⟨rfl, rfl⟩⟩

/-- Calls in any order log as many events as were due. -/
theorem turns_once (hone : s.OneOpen) (hnone : s.NoneOwed) {turns : List Turn} (hreturn : s.AllReturn turns) :
    (s.afterTurns turns).OneOpen ∧ (s.afterTurns turns).NoneOwed ∧
      ∃ logged, logged.length = s.dueCount turns ∧
        (s.afterTurns turns).events = logged.foldl Roster.insert s.events ∧
        (s.afterTurns turns).events.rows = s.events.rows ++ logged := by
  induction turns generalizing s with
  | nil => exact ⟨hone, hnone, [], rfl, rfl, (List.append_nil _).symm⟩
  | cons turn turns ih =>
      obtain ⟨hnone', hstep⟩ := turn_once hone hnone hreturn.1
      obtain ⟨honeT, hnoneT, logged, hlength, hevents, happend⟩ := ih (oneOpen_afterTurn hone turn) hnone' hreturn.2
      rw [afterTurns_cons]
      refine ⟨honeT, hnoneT, ?_⟩
      rcases hstep with ⟨hdue, event, hinsert, hrows⟩ | ⟨hdue, hsame⟩
      · rw [hinsert] at hevents
        refine ⟨event :: logged, ?_, hevents, ?_⟩
        · rw [List.length_cons, hlength, dueCount, hdue, Bool.toNat_true, Nat.add_comm]
        · rw [happend, hrows, List.append_assoc, List.singleton_append]
      · rw [hsame] at hevents happend
        refine ⟨logged, ?_, hevents, happend⟩
        rw [hlength, dueCount, hdue, Bool.toNat_false, Nat.zero_add]

/-- **Events are logged once.**  Start where no entity has two open alerts and no open alert owes an event, and
let assessments, changes of the inventory, thresholds and resolutions come in any order.  Then no entity has two
open alerts, nothing is owed, and every assessment that succeeds from there says whether it logged an event: it
did exactly if one was due.  Such an event has the next number, the saved level, which is high or critical, and
the entity among those it affects, and the open alert refers to it.  Over the calls the log has grown by one event
for each call for which one was due, and the new events stand behind all others.  No call in the sequence may find
the numbers used up, which ends the program. -/
theorem events_logged_once (s : Store) (hone : s.OneOpen) (hnone : s.NoneOwed) (turns : List Turn)
    (hreturn : s.AllReturn turns) :
    let t := s.afterTurns turns
    t.OneOpen ∧ t.NoneOwed ∧
    (∀ e entity o, ((Engine.reassess e entity).run (.plain t)).1 = .ok o →
      let u := t.afterTurn (.assess e entity)
      o.eventCreated = t.eventDue u entity ∧
      if o.eventCreated then ∃ event, t.LogsFor u entity event ∧ u.events.rows = t.events.rows ++ [event]
      else u.events = t.events) ∧
    ∃ logged, logged.length = s.dueCount turns ∧
      t.events = logged.foldl Roster.insert s.events ∧ t.events.rows = s.events.rows ++ logged := by
  intro t
  obtain ⟨honeT, hnoneT, hlogged⟩ := turns_once hone hnone hreturn
  refine ⟨honeT, hnoneT, fun e entity o hok => ?_, hlogged⟩
  intro u
  rcases e.reassess_once entity honeT hnoneT with ⟨cause, u', hrun, -⟩ | ⟨o', u', hrun, -, honce⟩ | hword
  · rw [hrun] at hok
    cases hok
  · have hafter : u = u' := by simp only [u, afterTurn, Turn.after]; rw [hrun]; rfl
    rw [hrun] at hok
    cases hok
    rw [hafter]
    generalize o.eventCreated = created at honce ⊢
    cases honce with
    | @due event hdue hlogs => exact ⟨hdue.symm, event, hlogs, hlogs.rows⟩
    | notDue hdue hevents => exact ⟨hdue.symm, hevents⟩
  · cases hok.symm.trans hword

/-- The only part is assessed twice, its alert is resolved, and it is assessed once more.  Its event is logged by
the first assessment and anew by the last one. -/
theorem resolved_part_is_logged_anew :
    oneSource.OneOpen ∧ oneSource.NoneOwed ∧
      let turns : List Turn := [.assess (.standardOn ⟨19000, by decide, by decide⟩) (.part ⟨10⟩),
        .assess (.standardOn ⟨19001, by decide, by decide⟩) (.part ⟨10⟩),
        .upkeep (.resolveAlert ⟨1⟩ (some "buyer") (.midnight ⟨19001, by decide, by decide⟩)),
        .assess (.standardOn ⟨19002, by decide, by decide⟩) (.part ⟨10⟩)]
      oneSource.AllReturn turns ∧ (oneSource.afterTurns turns).NoneOwed ∧
        ∃ logged : List RiskEvent, logged.length = 2 ∧
          (oneSource.afterTurns turns).events = logged.foldl Roster.insert .empty := by
  have hone : oneSource.OneOpen := by decide
  have hnone : oneSource.NoneOwed := by decide
  refine ⟨hone, hnone, ?_⟩
  intro turns
  have hreturn : oneSource.AllReturn turns := by decide +kernel
  obtain ⟨-, hnone', -, logged, hlength, hevents, -⟩ := events_logged_once oneSource hone hnone turns hreturn
  have hdue : oneSource.dueCount turns = 2 := by decide +kernel
  exact ⟨hreturn, hnone', logged, hlength.trans hdue, hevents⟩

end Store

end SupplyRisk
