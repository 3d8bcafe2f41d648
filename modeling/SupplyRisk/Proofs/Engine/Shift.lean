import Mathlib.Logic.Relation
import SupplyRisk.Proofs.Engine.Agreement
import SupplyRisk.Proofs.Engine.Upkeep
import SupplyRisk.Proofs.Engine.Writes

/-!
# Shifts of alerts and events

Whatever is done to a store, its alerts and events change by a few kinds of writes: `Store.Shift`.  Attempts,
repeated or not, runs, upkeep and new faults are all made of shifts (`Act.shifts`), so an invariant of alerts and
events that no shift breaks holds after any acts.  An alert keeps its number and its entity through every shift,
its level never falls, and it is not opened again (`Store.Shifts.becomes`).
-/

namespace SupplyRisk

namespace Store

/-- One write to alerts or events, or any change besides them. -/
inductive Shift (s : Store) : Store → Prop
  | other {t : Store} (hsame : s.SameLog t) : Shift s t
  | opens (c : AlertContext) (now : Instant) (hnone : s.openAlert c.entity = none) :
      Shift s (s.putAlert (.ofDraft ⟨nextNumber s.alerts⟩ (c.draft c.level now)))
  | escalates (c : AlertContext) (now : Instant) {a : Alert} (hfound : s.openAlert c.entity = some a)
      (hlt : a.level < c.level) : Shift s (s.putAlert (c.escalated a c.level now))
  | resolves (now : Instant) (resolver : Option String) {a : Alert} (hmem : a ∈ s.alerts.rows) :
      Shift s (s.putAlert (a.resolve now resolver))
  /-- Only the alert of a supplier can be settled without an event. -/
  | waives {id : SupplierId} {a : Alert} (hfound : s.openAlert (.supplier id) = some a) :
      Shift s (s.putAlert (a.recordEvent none))
  | logs {draft : EventDraft} {a : Alert} (hfound : s.openAlert a.entity = some a)
      (haffects : draft.Affects a.entity) (hseverity : .medium ≤ draft.severity) :
      Shift s (s.logFor draft a)

/-- Any number of shifts. -/
def Shifts : Store → Store → Prop := Relation.ReflTransGen Shift

namespace Shifts

variable {s t u : Store}

theorem refl (s : Store) : s.Shifts s := Relation.ReflTransGen.refl

theorem trans (hst : s.Shifts t) (htu : t.Shifts u) : s.Shifts u := Relation.ReflTransGen.trans hst htu

theorem of_shift (hshift : s.Shift t) : s.Shifts t := Relation.ReflTransGen.single hshift

theorem of_sameLog (hsame : s.SameLog t) : s.Shifts t := of_shift (.other hsame)

/-- What no shift breaks holds after any shifts. -/
theorem keeps {P : Store → Prop} (hP : ∀ {s t : Store}, P s → s.Shift t → P t) (hshifts : s.Shifts t)
    (h : P s) : P t := by
  induction hshifts with
  | refl => exact h
  | tail _ hshift ih => exact hP ih hshift

end Shifts

end Store

theorem AlertContext.Reconciles.shifts {c : AlertContext} {now : Instant} {s t : Store}
    {alert : Option Alert} (hdoes : c.Reconciles now s alert t) : s.Shifts t := by
  cases hdoes with
  | idle hnone hlow => exact .refl s
  | opens hnone hlevel ha =>
      subst ha
      exact .of_shift (.opens c now hnone)
  | resolves hfound hlow => exact .of_shift (.resolves now none (Store.of_openAlert hfound).1)
  | escalates hfound hlt => exact .of_shift (.escalates c now hfound hlt)
  | keeps hfound hlow hle => exact .refl s

theorem Verdict.Settles.shifts {v : Verdict} {now : Instant} {f : FaultyStore}
    {ended : Except Halt Outcome × FaultyStore} (hsettles : v.Settles now f ended) :
    f.store.Shifts ended.2.store := by
  cases hsettles with
  | @of_reconciles alert t logged g hreconciles hlogs =>
      refine hreconciles.shifts.trans ?_
      have hfound {a : Alert} (halert : alert = some a) (howes : a.Owes) :
          t.openAlert v.record.entity = some a := by
        subst halert
        have hfound := hreconciles.found howes.1
        rwa [v.entity_alert] at hfound
      cases hlogs with
      | idle hidle => exact .refl t
      | @waives a halert howes htriggered =>
          cases v with
          | supplier name category today record => exact .of_shift (.waives (hfound halert howes))
          | part history today record => cases htriggered
      | @logs a halert howes htriggered hfault hroom =>
          have hopen := hfound halert howes
          have hentity : a.entity = v.record.entity := (Store.of_openAlert hopen).2.2
          subst halert
          have hlow := (hreconciles.settled howes.1).1
          refine .of_shift (.logs (hentity ▸ hopen) (hentity ▸ v.affects_event) ?_)
          rw [v.severity_event, ← v.level_alert]
          exact Level.medium_le_iff.2 hlow
      | fails message halert howes htriggered hfault => exact .refl t
      | lacks halert howes htriggered hfault hfull => exact .refl t
  | lacks => exact .refl f.store

namespace Engine

variable {e : Engine} {entity : EntityRef} {f : FaultyStore}

theorem Writes.shifts {ended : Except Halt Outcome × FaultyStore} (hwrites : e.Writes entity f ended) :
    f.store.Shifts ended.2.store := by
  cases hwrites with
  | nothing cause hsame => exact .of_sameLog hsame
  | settles hsame hentity hstored hsettles => exact (Store.Shifts.of_sameLog hsame).trans hsettles.shifts

theorem reassess_shifts (e : Engine) (entity : EntityRef) (f : FaultyStore) :
    f.store.Shifts ((e.reassess entity).run f).2.store := (e.reassess_writes entity f).shifts

theorem work_shifts (e : Engine) (pass : Pass) (entity : EntityRef) (f : FaultyStore) :
    f.store.Shifts ((e.work pass entity).run f).2.store := by
  cases pass with
  | suppliers => exact e.reassess_shifts entity f
  | parts => exact e.reassess_shifts entity f
  | recommendations =>
      have hleaves := Script.only_mono (e.only_recommend entity) fun c => StoreCall.leavesLog_of_recommends
      exact .of_sameLog (Store.sameLog_of_script hleaves f)

theorem lists_sameLog {c : StoreCall} (hlists : Lists c) (f : FaultyStore) :
    f.store.SameLog (f.perform c).2.store := by
  have hleaves : c.leavesLog = true := by
    rcases hlists with rfl | rfl | rfl | rfl
    · rfl
    · rfl
    · rfl
    · rfl
  exact FaultyStore.perform_stable (Store.sameLog_stable f.store) hleaves (.refl f.store)

end Engine

/-! ## Acts -/

/-- What happens to a store: single calls, attempts repeated as far as the policy and the time allow, whole runs, and
faults to come. -/
inductive Act where
  | turn (call : Turn)
  | repeated (e : Engine) (late : Nat → Bool) (entity : EntityRef)
  | run (e : Engine) (clock : Clock) (crew : Crew) (sink : Sink) (options : RunOptions)
  | arm (faults : Faults)

/-- The work on an entity, repeated as far as the policy and the time allow. -/
def Engine.reassessRepeatedly (e : Engine) (late : Nat → Bool) (entity : EntityRef) :
    FaultyStore → Except Halt Outcome × FaultyStore :=
  retryingUntil e.config.retry late (e.reassess entity).run 0 0

/-- The store after an act, whether it succeeds or fails. -/
def Act.after (f : FaultyStore) : Act → FaultyStore
  | turn call => call.after f
  | repeated e late entity => (e.reassessRepeatedly late entity f).2
  | run e clock crew sink options => (e.runTimed clock crew sink options).storeAfter { backend := f }
  | arm faults => { f with faults }

def FaultyStore.afterActs (f : FaultyStore) (acts : List Act) : FaultyStore := acts.foldl Act.after f

theorem Turn.shifts (turn : Turn) (f : FaultyStore) : f.store.Shifts (turn.after f).store := by
  cases turn with
  | assess e entity => exact e.reassess_shifts entity f
  | upkeep work =>
      rcases work.after_cases f with hsame | ⟨a, now, resolver, hmem, hopen, hput⟩
      · exact .of_sameLog hsame
      · show f.store.Shifts (work.after f).store
        rw [hput]
        exact .of_shift (.resolves now resolver hmem)

theorem Act.shifts (act : Act) (f : FaultyStore) : f.store.Shifts (act.after f).store := by
  cases act with
  | turn call => exact call.shifts f
  | repeated e late entity =>
      exact retryingUntil_keeps _ _ (I := fun g => f.store.Shifts g.store)
        (fun g hshifts => hshifts.trans (e.reassess_shifts entity g)) 0 0 f (.refl f.store)
  | run e clock crew sink options =>
      exact Engine.keeps_run (I := fun g => f.store.Shifts g.store)
        (fun c hlists g hshifts => hshifts.trans (.of_sameLog (Engine.lists_sameLog hlists g)))
        (fun pass entity g hshifts => hshifts.trans (e.work_shifts pass entity g)) clock crew sink options
        { backend := f } (.refl f.store)
  | arm faults => exact .refl f.store

theorem FaultyStore.shifts_afterActs (f : FaultyStore) (acts : List Act) :
    f.store.Shifts (f.afterActs acts).store := by
  induction acts generalizing f with
  | nil => exact .refl f.store
  | cons act acts ih => exact (act.shifts f).trans (ih (act.after f))

/-! ## What shifts keep -/

/-- What can become of an alert: it keeps its number and its entity, its level does not fall, and it is not opened
again. -/
structure Alert.Becomes (a b : Alert) : Prop where
  id : b.id = a.id
  entity : b.entity = a.entity
  level : a.level ≤ b.level
  isOpen : b.isOpen = true → a.isOpen = true

namespace Alert.Becomes

variable {a b c : Alert}

theorem refl (a : Alert) : a.Becomes a := ⟨rfl, rfl, Level.le_refl _, fun hopen => hopen⟩

theorem trans (hab : a.Becomes b) (hbc : b.Becomes c) : a.Becomes c :=
  ⟨hbc.id.trans hab.id, hbc.entity.trans hab.entity, Level.le_trans hab.level hbc.level,
    fun hopen => hab.isOpen (hbc.isOpen hopen)⟩

end Alert.Becomes

namespace Store

variable {s t : Store}

/-- A shift leaves the alerts alone, opens one where none was open, or writes what an alert has become; an alert
that is still open by then is the one that was found for its entity. -/
theorem Shift.alerts_cases (hshift : s.Shift t) :
    t.alerts = s.alerts ∨
      (∃ x, t.alerts = s.alerts.insert x ∧ x.id = ⟨nextNumber s.alerts⟩ ∧ x.isOpen = true ∧
        s.openAlert x.entity = none) ∨
      ∃ a x, t.alerts = s.alerts.insert x ∧ a ∈ s.alerts.rows ∧ a.Becomes x ∧
        (x.isOpen = true → s.openAlert a.entity = some a) := by
  cases hshift with
  | other hsame => exact .inl hsame.alerts
  | opens c now hnone => exact .inr (.inl ⟨_, rfl, rfl, rfl, hnone⟩)
  | @escalates c now a hfound hlt =>
      obtain ⟨hmem, hopen, hentity⟩ := of_openAlert hfound
      exact .inr (.inr ⟨a, _, rfl, hmem, ⟨rfl, rfl, Level.le_of_lt hlt, fun _ => hopen⟩,
        fun _ => hentity ▸ hfound⟩)
  | @resolves now resolver a hmem =>
      refine .inr (.inr ⟨a, _, rfl, hmem, ⟨rfl, rfl, Level.le_refl _, fun hopen => ?_⟩, fun hopen => ?_⟩)
      · cases hopen
      · cases hopen
  | @waives id a hfound =>
      obtain ⟨hmem, hopen, hentity⟩ := of_openAlert hfound
      exact .inr (.inr ⟨a, _, rfl, hmem, ⟨rfl, rfl, Level.le_refl _, fun _ => hopen⟩,
        fun _ => hentity ▸ hfound⟩)
  | @logs draft a hfound haffects hseverity =>
      obtain ⟨hmem, hopen, -⟩ := of_openAlert hfound
      exact .inr (.inr ⟨a, _, rfl, hmem, ⟨rfl, rfl, Level.le_refl _, fun _ => hopen⟩, fun _ => hfound⟩)

/-- A shift leaves the events alone or logs a new one. -/
theorem Shift.events_cases (hshift : s.Shift t) :
    t.events = s.events ∨
      ∃ draft, t.events = s.events.insert (.ofDraft ⟨nextNumber s.events⟩ draft) := by
  cases hshift with
  | other hsame => exact .inl hsame.events
  | logs hfound haffects hseverity => exact .inr ⟨_, rfl⟩
  | _ => exact .inl rfl

/-- Numbers stay in use. -/
theorem Shift.holds (hshift : s.Shift t) : t.alerts.Holds s.alerts ∧ t.events.Holds s.events := by
  constructor
  · rcases hshift.alerts_cases with hsame | ⟨x, hput, -⟩ | ⟨a, x, hput, -⟩
    · rw [hsame]
      exact .refl s.alerts
    · rw [hput]
      exact (Roster.Holds.refl s.alerts).insert x
    · rw [hput]
      exact (Roster.Holds.refl s.alerts).insert x
  · rcases hshift.events_cases with hsame | ⟨draft, hinsert⟩
    · rw [hsame]
      exact .refl s.events
    · rw [hinsert]
      exact (Roster.Holds.refl s.events).insert _

theorem Shifts.holds (hshifts : s.Shifts t) : t.alerts.Holds s.alerts ∧ t.events.Holds s.events := by
  induction hshifts with
  | refl => exact ⟨.refl s.alerts, .refl s.events⟩
  | tail _ hshift ih => exact ⟨hshift.holds.1.trans ih.1, hshift.holds.2.trans ih.2⟩

theorem Shift.becomes (hshift : s.Shift t) (hfit : s.AlertNumbersFit) {a : Alert} (hmem : a ∈ s.alerts.rows) :
    ∃ b ∈ t.alerts.rows, a.Becomes b := by
  rcases hshift.alerts_cases with hsame | ⟨x, hput, hid, -⟩ | ⟨b, x, hput, hb, hbecomes, -⟩
  · rw [hsame]
    exact ⟨a, hmem, .refl a⟩
  · have hne : a.id ≠ x.id := by
      intro hsame
      have hlt : a.id.value.toNat < (nextNumber s.alerts).toNat := lt_nextNumber hmem hfit
      rw [hsame, hid] at hlt
      exact Nat.lt_irrefl _ hlt
    rw [hput]
    exact ⟨a, mem_alerts_insert_iff.2 (.inr ⟨hmem, hne⟩), .refl a⟩
  · rw [hput]
    by_cases hsame : a.id = b.id
    · have hab : a = b := Roster.eq_of_rank_eq hmem hb (AlertId.toNat_inj.2 hsame)
      exact ⟨x, mem_alerts_insert_iff.2 (.inl rfl), hab ▸ hbecomes⟩
    · have hne : a.id ≠ x.id := fun h => hsame (h.trans hbecomes.id)
      exact ⟨a, mem_alerts_insert_iff.2 (.inr ⟨hmem, hne⟩), .refl a⟩

/-- Every alert is still there, as what it has become. -/
theorem Shifts.becomes (hshifts : s.Shifts t) (hfit : t.AlertNumbersFit) {a : Alert}
    (hmem : a ∈ s.alerts.rows) : ∃ b ∈ t.alerts.rows, a.Becomes b := by
  induction hshifts with
  | refl => exact ⟨a, hmem, .refl a⟩
  | tail _ hshift ih =>
      have hfit' := hshift.holds.1.fit hfit
      obtain ⟨b, hb, hab⟩ := ih hfit'
      obtain ⟨c, hc, hbc⟩ := hshift.becomes hfit' hb
      exact ⟨c, hc, hab.trans hbc⟩

end Store

end SupplyRisk
