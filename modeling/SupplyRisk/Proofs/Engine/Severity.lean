import SupplyRisk.Proofs.Engine.Shift

/-!
# The severity of logged events

An alert that owes an event is at high risk (`Store.OwesHigh`), but the event is made from the assessment that logs
it.  When an attempt raises an alert and logs its event at once, the event is high or critical.  An event that is
logged by a later attempt shows the level that its entity has by then, which is at least medium and may be below
what the alert shows (`Engine.logged_severities`).
-/

namespace SupplyRisk

namespace Store

/-- Alerts that owe an event are at high risk. -/
def OwesHigh (s : Store) : Prop := ∀ a ∈ s.alerts.rows, a.Owes → a.level.isHigh = true

/-- No event is below medium. -/
def EventsNotable (s : Store) : Prop := ∀ event ∈ s.events.rows, .medium ≤ event.severity

variable {s t : Store}

theorem OwesHigh.shift (hhigh : s.OwesHigh) (hshift : s.Shift t) : t.OwesHigh := by
  cases hshift with
  | other hsame =>
      unfold OwesHigh
      rwa [hsame.alerts]
  | opens c now hnone => exact forall_putAlert hhigh fun howes => howes.2
  | @escalates c now a hfound hlt =>
      refine forall_putAlert hhigh fun howes => ?_
      rcases Bool.or_eq_true_iff.1 howes.2 with hpending | hrises
      · -- What it owed before, it owed at high risk already.
        obtain ⟨hmem, hopen, -⟩ := of_openAlert hfound
        have hbefore : Level.high ≤ a.level := of_decide_eq_true (hhigh a hmem ⟨hopen, hpending⟩)
        exact decide_eq_true (Level.le_of_lt (Level.lt_of_le_of_lt hbefore hlt))
      · exact hrises
  | resolves now resolver hmem => exact forall_putAlert hhigh fun howes => nomatch howes.1
  | waives hfound => exact forall_putAlert hhigh fun howes => nomatch howes.2
  | @logs draft a hfound haffects hseverity =>
      exact forall_putAlert (s := (s.insertEvent draft).2) hhigh fun howes => nomatch howes.2

theorem EventsNotable.shift (hnotable : s.EventsNotable) (hshift : s.Shift t) : t.EventsNotable := by
  intro event hmem
  cases hshift with
  | other hsame => exact hnotable event (hsame.events ▸ hmem)
  | logs hfound haffects hseverity =>
      rcases mem_insertRow hmem with rfl | hmem
      · exact hseverity
      · exact hnotable event hmem
  | _ => exact hnotable event hmem

/-- The event that an attempt logs: the open alert of the entity refers to it and is at high risk.  The event is
not above the alert and not below medium, and it is high itself unless the alert owed it before. -/
structure LogsOwed (s t : Store) (entity : EntityRef) (event : RiskEvent) (a : Alert) : Prop where
  events : t.events = s.events.insert event
  found : t.openAlert entity = some a
  refers : a.event = some event.id
  isHigh : a.level.isHigh = true
  severity_le : event.severity ≤ a.level
  notable : .medium ≤ event.severity
  high_of_new : (∀ b, s.openAlert entity = some b → b.eventPending = false) → event.severity.isHigh = true

end Store

/-- An alert that owes an event only since it was reconciled owes it for the level it was reconciled with. -/
theorem AlertContext.Reconciles.isHigh_of_new {c : AlertContext} {now : Instant} {s t : Store} {a : Alert}
    (hdoes : c.Reconciles now s (some a) t) (howes : a.Owes)
    (hnew : ∀ b, s.openAlert c.entity = some b → b.eventPending = false) : c.level.isHigh = true := by
  cases hdoes with
  | opens hnone hlevel ha =>
      rw [ha] at howes
      exact howes.2
  | resolves hopen hlow => cases howes.1
  | @escalates b hopen hlt =>
      rcases Bool.or_eq_true_iff.1 howes.2 with hpending | hhigh
      · cases (hnew b hopen).symm.trans hpending
      · exact hhigh
  | keeps hopen hlow hle => cases (hnew a hopen).symm.trans howes.2

namespace Engine

variable {e : Engine} {entity : EntityRef} {f : FaultyStore}

/-- An attempt logs no event, or the one that the open alert of its entity owes. -/
theorem Writes.logsOwed {ended : Except Halt Outcome × FaultyStore} (hwrites : e.Writes entity f ended)
    (hhigh : f.store.OwesHigh) :
    ended.2.store.events = f.store.events ∨ ∃ event a, f.store.LogsOwed ended.2.store entity event a := by
  cases hwrites with
  | nothing cause hsame => exact .inl hsame.events
  | @settles v x ended hsame hv hstored hsettles =>
      subst hv
      cases hsettles with
      | lacks => exact .inl hsame.events
      | @of_reconciles alert t logged g hreconciles hlogs =>
          have hevents : t.events = f.store.events := hreconciles.events.trans hsame.events
          cases hlogs with
          | idle hnone => exact .inl hevents
          | waives halert howes htriggered => exact .inl hevents
          | fails message halert howes htriggered hfault => exact .inl hevents
          | lacks halert howes htriggered hfault hfull => exact .inl hevents
          | @logs a halert howes htriggered hfault hroom =>
              subst halert
              have hfound := hreconciles.found howes.1
              obtain ⟨hlow, hle⟩ := hreconciles.settled howes.1
              -- Reads and reconciling keep what is said of alerts that owe an event.
              have hreached := (Store.Shifts.of_sameLog hsame).trans hreconciles.shifts
              have hlevel := hreached.keeps Store.OwesHigh.shift hhigh a (Store.of_openAlert hfound).1 howes
              have hput : (t.logFor v.event a).openAlert v.alert.entity = some (a.recordEvent _) :=
                Store.openAlert_putAlert_of_some (s := (t.insertEvent v.event).2) hfound rfl howes.1
                  (Store.of_openAlert hfound).2.2
              rw [v.entity_alert] at hput
              have hseverity : v.event.severity = v.alert.level := v.severity_event.trans v.level_alert.symm
              refine .inr ⟨.ofDraft ⟨Store.nextNumber t.events⟩ v.event, _,
                ⟨?_, hput, rfl, hlevel, ?_, ?_, fun hnew => ?_⟩⟩
              · rw [← hevents]
                rfl
              · show v.event.severity ≤ a.level
                rw [hseverity]
                exact Level.not_lt.1 hle
              · show .medium ≤ v.event.severity
                rw [hseverity]
                exact Level.medium_le_iff.2 hlow
              · show v.event.severity.isHigh = true
                rw [hseverity]
                refine hreconciles.isHigh_of_new howes fun b hb => hnew b ?_
                rwa [v.entity_alert, hsame.openAlert] at hb

/-- **What events show.**  Start without alerts and events and let anything happen: calls, repeated attempts, runs,
upkeep, and faults of any kind.  Then every event is at medium or above, and every alert that owes an event is at
high or critical.  A further attempt logs no event, or one for an open alert at high or critical; the event shows
the level of its entity, which is at medium or above and not above that of the alert, and which is high or critical
unless the alert owed the event already. -/
theorem logged_severities (f : FaultyStore) (halerts : f.store.alerts.rows = [])
    (hevents : f.store.events.rows = []) (acts : List Act) :
    let g := f.afterActs acts
    g.store.EventsNotable ∧ g.store.OwesHigh ∧
    ∀ e entity,
      let t := ((Engine.reassess e entity).run g).2.store
      t.events = g.store.events ∨ ∃ event a, g.store.LogsOwed t entity event a := by
  intro g
  have hshifts : f.store.Shifts g.store := f.shifts_afterActs acts
  have hnotable : f.store.EventsNotable := by
    intro event hmem
    rw [hevents] at hmem
    cases hmem
  have hhigh : f.store.OwesHigh := by
    intro a hmem
    rw [halerts] at hmem
    cases hmem
  have hhigh' : g.store.OwesHigh := hshifts.keeps Store.OwesHigh.shift hhigh
  refine ⟨hshifts.keeps Store.EventsNotable.shift hnotable, hhigh', fun e entity => ?_⟩
  exact (e.reassess_writes entity g).logsOwed hhigh'

/-- The demand for the only part exceeds its stock, and its event will fail to be logged. -/
def risingDemand : FaultyStore where
  store :=
    { (Store.oneSource.addStockItem ⟨⟨10⟩, 1, true⟩).addOrderLine
        ⟨⟨1⟩, ⟨10⟩, ⟨18970, by decide, by decide⟩, 400, 400, 1, some ⟨18984, by decide, by decide⟩,
          some ⟨18983, by decide, by decide⟩⟩ with
      partRisks := .ofList [{ PartRisk.new ⟨10⟩ with longLeadTime := true, highValue := true }] }
  faults := { failingEventOnce := true }

/-- Nobody has logged an event yet; when the first attempt is over, the alert of the part still owes one, at high
or critical. -/
theorem failed_event_is_owed_at_high :
    risingDemand.store.alerts.rows = [] ∧ risingDemand.store.events.rows = [] ∧
      let g := risingDemand.afterActs
        [.turn (.assess (standardOn ⟨19000, by decide, by decide⟩) (.part ⟨10⟩))]
      ∃ a ∈ g.store.alerts.rows, a.Owes ∧ a.level.isHigh = true := by
  refine ⟨rfl, rfl, ?_⟩
  intro g
  have howing : ∃ a ∈ g.store.alerts.rows, a.Owes := by decide +kernel
  have hhigh : g.store.OwesHigh := (logged_severities risingDemand rfl rfl _).2.1
  obtain ⟨a, hmem, howes⟩ := howing
  exact ⟨a, hmem, howes, hhigh a hmem howes⟩

/-- Two years later the demand is forgotten.  The attempt that logs the event finds the part at medium, and so does
the event say, although the alert that refers to it is critical. -/
theorem late_event_shows_medium :
    let acts : List Act := [.turn (.assess (standardOn ⟨19000, by decide, by decide⟩) (.part ⟨10⟩)),
      .turn (.assess (standardOn ⟨19731, by decide, by decide⟩) (.part ⟨10⟩))]
    risingDemand.store.alerts.rows = [] ∧ risingDemand.store.events.rows = [] ∧
      ∃ event ∈ (risingDemand.afterActs acts).store.events.rows, event.severity = .medium ∧
        ∃ a ∈ (risingDemand.afterActs acts).store.alerts.rows,
          a.event = some event.id ∧ a.level = .critical :=
  ⟨rfl, rfl, by decide +kernel⟩

end Engine

end SupplyRisk
