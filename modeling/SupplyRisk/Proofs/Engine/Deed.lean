import Mathlib.Data.List.Basic
import SupplyRisk.Proofs.Engine.Frame
import SupplyRisk.Proofs.Store.Write

/-!
# What work on an entity does

On a store without faults the work on an entity comes to one of a few answers and makes a few writes, all about
this entity: its `Deed`.  What is done depends on nothing but what the store knows about the entity (`deed_congr`).
So the visits of a pass do what each of them would have done first (`tour_of_answers`, `answers_of_tour`).
-/

namespace SupplyRisk

namespace AlertContext

variable {c : AlertContext} {now : Instant} {s t : Store} {alert : Option Alert}

/-- The alert that reconciling hands on where this one was open; one that opens gets the number. -/
def handsOn (c : AlertContext) (now : Instant) (id : AlertId) : Option Alert → Option Alert
  | none => if .medium ≤ c.level then some (.ofDraft id (c.draft c.level now)) else none
  | some a =>
      if c.level = .low then some (a.resolve now none)
      else if a.level < c.level then some (c.escalated a c.level now)
      else some a

theorem handsOn_none (c : AlertContext) (now : Instant) (id : AlertId) :
    c.handsOn now id none = if .medium ≤ c.level then some (.ofDraft id (c.draft c.level now)) else none := rfl

theorem handsOn_some (c : AlertContext) (now : Instant) (id : AlertId) (a : Alert) :
    c.handsOn now id (some a) =
      if c.level = .low then some (a.resolve now none)
      else if a.level < c.level then some (c.escalated a c.level now)
      else some a := rfl

/-- What reconciling hands on is stored. -/
theorem Reconciles.eq_handsOn (hdoes : c.Reconciles now s alert t) :
    alert = c.handsOn now ⟨Store.nextNumber s.alerts⟩ (s.openAlert c.entity) ∧ t = alert.elim s s.putAlert := by
  cases hdoes with
  | idle hnone hlow =>
      rw [hnone, handsOn_none, if_neg (mt Level.medium_le_iff.1 fun hne => hne hlow)]
      exact ⟨rfl, rfl⟩
  | opens hnone hlevel ha =>
      rw [hnone, handsOn_none, if_pos hlevel, ha]
      exact ⟨rfl, rfl⟩
  | resolves hopen hlow =>
      rw [hopen, handsOn_some, if_pos hlow]
      exact ⟨rfl, rfl⟩
  | escalates hopen hlt =>
      rw [hopen, handsOn_some, if_neg (Level.ne_low_of_lt hlt), if_pos hlt]
      exact ⟨rfl, rfl⟩
  | keeps hopen hlow hle =>
      rw [hopen, handsOn_some, if_neg hlow, if_neg hle]
      refine ⟨rfl, ?_⟩
      show s = { s with alerts := s.alerts.insert _ }
      rw [Roster.insert_of_mem (Store.of_openAlert hopen).1]

/-- An alert that opens is the same but for its number. -/
theorem handsOn_number (c : AlertContext) (now : Instant) (id : AlertId) (current : Option Alert) :
    c.handsOn now id current = (c.handsOn now ⟨0⟩ current).map (·.numbered current.isNone id) := by
  cases current with
  | none =>
      rw [handsOn_none, handsOn_none]
      by_cases hlevel : Level.medium ≤ c.level
      · rw [if_pos hlevel, if_pos hlevel]
        rfl
      · rw [if_neg hlevel, if_neg hlevel]
        rfl
  | some a => exact (congrFun Option.map_id _).symm

/-- An alert that is handed on is a new one, or the open one with the same number, entity and event. -/
theorem of_handsOn {id : AlertId} {current : Option Alert} {a : Alert} (h : c.handsOn now id current = some a) :
    current = none ∧ a = .ofDraft id (c.draft c.level now) ∨
      ∃ b, current = some b ∧ b.id = a.id ∧ b.entity = a.entity ∧ b.event = a.event := by
  cases current with
  | none =>
      rw [handsOn_none] at h
      by_cases hlevel : Level.medium ≤ c.level
      · rw [if_pos hlevel] at h
        cases h
        exact .inl ⟨rfl, rfl⟩
      · rw [if_neg hlevel] at h
        cases h
  | some b =>
      refine .inr ⟨b, rfl, ?_⟩
      rw [handsOn_some] at h
      by_cases hlow : c.level = .low
      · rw [if_pos hlow] at h
        cases h
        exact ⟨rfl, rfl, rfl⟩
      · rw [if_neg hlow] at h
        by_cases hlt : b.level < c.level
        · rw [if_pos hlt] at h
          cases h
          exact ⟨rfl, rfl, rfl⟩
        · rw [if_neg hlt] at h
          cases h
          exact ⟨rfl, rfl, rfl⟩

end AlertContext

theorem Alert.owes_numbered {a : Alert} {isNew : Bool} {id : AlertId} : (a.numbered isNew id).Owes ↔ a.Owes := by
  cases isNew <;> exact Iff.rfl

theorem Alert.recordEvent_numbered (a : Alert) (isNew : Bool) (id : AlertId) (event : Option EventId) :
    (a.recordEvent event).numbered isNew id = (a.numbered isNew id).recordEvent event := by
  cases isNew <;> rfl

/-- An alert that is written twice is written as it was the second time. -/
theorem Store.putAlert_putAlert {s : Store} {a b : Alert} (hid : a.id = b.id) :
    (s.putAlert a).putAlert b = s.putAlert b := by
  show { s with alerts := (s.alerts.insert a).insert b } = { s with alerts := s.alerts.insert b }
  rw [Roster.insert_insert (AlertId.toNat_inj.2 hid)]

/-- Logging the event of an alert goes over the alert as it was written before. -/
theorem Store.logFor_putAlert (s : Store) (d : EventDraft) (a : Alert) :
    (s.putAlert a).logFor d a = s.logFor d (a.recordEvent none) := by
  let event := RiskEvent.ofDraft ⟨Store.nextNumber s.events⟩ d
  let logged := a.recordEvent (some event.id)
  show { s with events := s.events.insert event, alerts := (s.alerts.insert a).insert logged } =
    { s with events := s.events.insert event, alerts := s.alerts.insert logged }
  rw [Roster.insert_insert (a := a) (b := logged) rfl]

/-! ## Deeds -/

/-- What work on an entity comes to, and what it writes. -/
structure Deed where
  result : Except Halt Outcome
  writes : List Write

/-- The answer of a visit; the end of the program has none. -/
def Deed.visit? (d : Deed) (z : EntityRef) : Option Visit :=
  match d.result with
  | .ok o => some ⟨z, .ok o⟩
  | .error (.failure error) => some ⟨z, .error error⟩
  | .error .calendar | .error .word => none

/-- What comes of a deed: what it says, as long as there are numbers for all that it writes. -/
inductive Deed.Ends (d : Deed) (s : Store) : Except Halt Outcome × FaultyStore → Prop
  | done {t : Store} (hroom : s.RoomFor d.writes) (ht : t = s.writes d.writes) : Ends d s (d.result, .plain t)
  | full (hfull : ¬ s.RoomFor d.writes) (f : FaultyStore) : Ends d s (.error .word, f)

theorem Deed.Ends.eq_done {d : Deed} {s : Store} {ended : Except Halt Outcome × FaultyStore} (hends : d.Ends s ended)
    (hroom : s.RoomFor d.writes) : ended = (d.result, .plain (s.writes d.writes)) := by
  cases hends with
  | done _ ht => rw [ht]
  | full hfull f => exact absurd hroom hfull

namespace Verdict

variable {v : Verdict} {now : Instant} {s t : Store}

/-- The alert that settling a verdict hands on, without a number if it is new. -/
def handsOn (v : Verdict) (now : Instant) (current : Option Alert) : Option Alert :=
  v.alert.handsOn now ⟨0⟩ current

/-- Whether settling a verdict logs an event. -/
def logs (v : Verdict) (now : Instant) (current : Option Alert) : Bool :=
  (v.handsOn now current).any (fun a => decide a.Owes && v.triggered)

/-- What settling a verdict writes. -/
def alertWrite? (v : Verdict) (now : Instant) (current : Option Alert) : Option Write :=
  (v.handsOn now current).map fun a =>
    .alert current.isNone (if a.Owes then a.recordEvent none else a)
      (if v.logs now current then some v.event else none)

/-- What settling writes goes over the open alert, or is new. -/
theorem knows_alertWrite? {w : Write} {z : EntityRef} (hw : w ∈ v.alertWrite? now (s.openAlert z)) : s.Knows w := by
  obtain ⟨a, hhands, rfl⟩ := Option.map_eq_some_iff.1 hw
  have hevent : (if a.Owes then a.recordEvent none else a).event = a.event := by
    split <;> rfl
  rcases AlertContext.of_handsOn hhands with ⟨hnone, rfl⟩ | ⟨b, hb, hid, hentity, hsame⟩
  · rw [hnone]
    exact hevent
  · rw [hb]
    refine ⟨b, (Store.of_openAlert hb).1, ?_, ?_, hsame.trans hevent.symm⟩
    · rw [hid]
      split <;> rfl
    · rw [hentity]
      split <;> rfl

/-- Where no number is left for an alert that is to open, there is no room for what settling writes. -/
theorem not_roomFor_of_lacks (hlacks : v.alert.LacksNumber s) (now : Instant) :
    ¬ s.RoomFor (v.alertWrite? now (s.openAlert v.record.entity)).toList := by
  have hhands : v.handsOn now none = some (.ofDraft ⟨0⟩ (v.alert.draft v.alert.level now)) := by
    rw [handsOn, AlertContext.handsOn_none, if_pos hlacks.level]
  have hnone := hlacks.none
  rw [entity_alert] at hnone
  rw [hnone, alertWrite?, hhands]
  intro hroom
  have hnext : Store.hasNext s.alerts = true := Store.hasNext_iff.2 hroom.alerts.above
  cases hnext.symm.trans hlacks.full

/-- An alert that opens finds a number, unless there is none left. -/
theorem fit_of_handsOn (hlacks : ¬ v.alert.LacksNumber s) {a : Alert}
    (hhands : v.handsOn now (s.openAlert v.record.entity) = some a)
    (hnew : (s.openAlert v.record.entity).isNone = true) : s.AlertNumbersFit := by
  have hnone := Option.isNone_iff_eq_none.1 hnew
  refine Store.hasNext_iff.1 (Bool.not_eq_false _ ▸ fun hfull => hlacks ⟨v.entity_alert ▸ hnone, ?_, hfull⟩)
  rw [hnone, handsOn, AlertContext.handsOn_none] at hhands
  refine Classical.not_not.1 fun hlevel => ?_
  rw [if_neg hlevel] at hhands
  cases hhands

/-- What settling a verdict comes to. -/
def settling (v : Verdict) (now : Instant) (current : Option Alert) : Deed :=
  ⟨.ok (v.outcome (v.logs now current)), (v.alertWrite? now current).toList⟩

/-- Settling writes the alert that it hands on, and settles what this one owes. -/
theorem settle_ends (v : Verdict) (now : Instant) (s : Store) :
    (v.settling now (s.openAlert v.record.entity)).Ends s ((v.settle now).run (.plain s)) := by
  by_cases hlacks : v.alert.LacksNumber s
  · rw [settle_of_lacks (f := .plain s) hlacks now]
    exact .full (not_roomFor_of_lacks hlacks now) _
  have hopens {a : Alert} (hhands : v.handsOn now (s.openAlert v.record.entity) = some a) :=
    fit_of_handsOn hlacks hhands
  have hknows {w : Write} (hw : w ∈ v.alertWrite? now (s.openAlert v.record.entity)) := knows_alertWrite? hw
  have hsettles := v.settle_settles now (.plain s)
  generalize (v.settle now).run (.plain s) = ended at hsettles
  cases hsettles with
  | lacks hlacks' => exact absurd hlacks' hlacks
  | @of_reconciles alert t logged g hreconciles hlogs =>
      -- The five outcomes of logging are told apart by what the alert that is handed on owes.
      obtain ⟨halert, rfl⟩ := hreconciles.eq_handsOn
      rw [entity_alert, AlertContext.handsOn_number] at halert
      change alert = (v.handsOn now (s.openAlert v.record.entity)).map
        (·.numbered (s.openAlert v.record.entity).isNone ⟨Store.nextNumber s.alerts⟩) at halert
      generalize s.openAlert v.record.entity = current at halert hopens hknows
      unfold settling
      unfold alertWrite? at hknows ⊢
      unfold logs at hknows ⊢
      cases hhands : v.handsOn now current with
      | none =>
          rw [hhands] at halert
          subst halert
          cases hlogs with
          | idle hnone => exact .done s.roomFor_nil rfl
          | waives halert => cases halert
          | logs halert => cases halert
          | fails message halert => cases halert
          | lacks halert => cases halert
      | some a =>
          rw [hhands] at halert hknows
          subst halert
          have hknows := hknows rfl
          have hopens := hopens hhands
          simp only [Option.any_some, Option.map_some, Option.toList_some] at hknows ⊢
          cases hlogs with
          | idle hnone =>
              have hnot : ¬ a.Owes := fun howes => hnone _ rfl (Alert.owes_numbered.2 howes)
              simp only [decide_eq_false hnot, Bool.false_and, if_neg hnot] at hknows ⊢
              exact .done ((Store.roomFor_singleton hknows).2 ⟨hopens, nofun, nofun⟩) rfl
          | waives hsome howes htriggered =>
              cases hsome
              have howes := Alert.owes_numbered.1 howes
              simp only [htriggered, Bool.and_false, if_pos howes, Bool.false_eq_true, if_false] at hknows ⊢
              refine .done ((Store.roomFor_singleton hknows).2 ⟨hopens, nofun, nofun⟩) ?_
              rw [Store.writes_cons, Store.write_alert, Alert.recordEvent_numbered]
              exact Store.putAlert_putAlert rfl
          | logs hsome howes htriggered hfault hroom =>
              cases hsome
              have howes := Alert.owes_numbered.1 howes
              simp only [htriggered, decide_eq_true howes, Bool.and_true, if_pos howes, if_true] at hknows ⊢
              have hevents : s.EventNumbersFit := Store.hasNext_iff.1 hroom
              refine .done ((Store.roomFor_singleton hknows).2 ⟨hopens, fun _ => hevents, nofun⟩) ?_
              rw [Store.writes_cons, Store.write_alert_logging, Alert.recordEvent_numbered]
              exact Store.logFor_putAlert s v.event _
          | fails message hsome howes htriggered hfault => cases hfault
          | lacks hsome howes htriggered hfault hfull =>
              cases hsome
              have howes := Alert.owes_numbered.1 howes
              simp only [htriggered, decide_eq_true howes, Bool.and_true, if_pos howes, if_true] at hknows ⊢
              refine .full (fun hroom => ?_) _
              have hnext : Store.hasNext s.events = true := Store.hasNext_iff.2 hroom.events.above
              cases hnext.symm.trans hfull

/-- What settling writes is about the entity of the verdict. -/
theorem entity_alertWrite? {current : Option Alert} {w : Write}
    (hcurrent : ∀ a, current = some a → a.entity = v.record.entity) (hw : w ∈ v.alertWrite? now current) :
    w.entity = v.record.entity := by
  obtain ⟨a, hhands, rfl⟩ := Option.map_eq_some_iff.1 hw
  have hentity : a.entity = v.record.entity := by
    rcases AlertContext.of_handsOn hhands with ⟨-, rfl⟩ | ⟨b, hb, -, hsame, -⟩
    · exact v.entity_alert
    · exact hsame.symm.trans (hcurrent b hb)
  show Alert.entity (if a.Owes then a.recordEvent none else a) = _
  split
  · exact hentity
  · exact hentity

end Verdict

namespace Engine

variable (e : Engine)

/-- What an assessment that stops before its save writes: the record of a known entity. -/
def readings (s : Store) (z : EntityRef) : List Write := if s.knows z then [.risk (e.recordFor s z)] else []

/-- An assessment stops before its save, or saves the record of its verdict and settles that. -/
def assessing (s : Store) (z : EntityRef) : Deed :=
  match e.verdict s z with
  | .error cause => ⟨.error cause, e.readings s z⟩
  | .ok v =>
      if Word.hasNext v.record.version then
        ⟨(v.settling e.now (s.openAlert z)).result, .risk v.record.next :: (v.settling e.now (s.openAlert z)).writes⟩
      else ⟨.error .word, e.readings s z⟩

/-- Recommending adds what is planned for a known part, whose record it creates if there is none. -/
def suggesting (s : Store) : EntityRef → Deed
  | .supplier _ => ⟨.ok {}, []⟩
  | .part id =>
      if s.knows (.part id) then
        ⟨.ok { recommendations := (e.drafts s id).length },
          .risk (s.riskOrFresh 0 (.part id)) :: (e.drafts s id).map .suggestion⟩
      else ⟨.error (.failure (.notFound (.part id))), []⟩

/-- What a pass does with an entity. -/
def deed (pass : Pass) (s : Store) (z : EntityRef) : Deed :=
  match pass with
  | .recommendations => e.suggesting s z
  | _ => e.assessing s z

variable {e} {s t : Store} {z : EntityRef} {pass : Pass}

theorem assessing_of_error {cause : Halt} (hverdict : e.verdict s z = .error cause) :
    e.assessing s z = ⟨.error cause, e.readings s z⟩ := by
  simp only [assessing, hverdict]

theorem assessing_of_ok {v : Verdict} (hverdict : e.verdict s z = .ok v)
    (hnext : Word.hasNext v.record.version = true) :
    e.assessing s z = ⟨(v.settling e.now (s.openAlert z)).result,
      .risk v.record.next :: (v.settling e.now (s.openAlert z)).writes⟩ := by
  simp only [assessing, hverdict, if_pos hnext]

theorem assessing_of_worn {v : Verdict} (hverdict : e.verdict s z = .ok v)
    (hfull : Word.hasNext v.record.version = false) : e.assessing s z = ⟨.error .word, e.readings s z⟩ := by
  simp only [assessing, hverdict, hfull, Bool.false_eq_true, if_false]

theorem suggesting_of_known {id : PartId} (hknown : s.knows (.part id) = true) :
    e.suggesting s (.part id) = ⟨.ok { recommendations := (e.drafts s id).length },
      .risk (s.riskOrFresh 0 (.part id)) :: (e.drafts s id).map .suggestion⟩ := by
  simp only [suggesting, hknown, if_true]

theorem suggesting_of_unknown {id : PartId} (hunknown : s.knows (.part id) = false) :
    e.suggesting s (.part id) = ⟨.error (.failure (.notFound (.part id))), []⟩ := by
  simp only [suggesting, hunknown, Bool.false_eq_true, if_false]

/-- An assessment pass assesses, and the other pass recommends. -/
theorem deed_of_assesses (hpass : pass ≠ .recommendations) : e.deed pass s z = e.assessing s z := by
  cases pass with
  | suppliers => rfl
  | parts => rfl
  | recommendations => exact absurd rfl hpass

theorem writes_readings (e : Engine) (s : Store) (z : EntityRef) :
    s.RoomFor (e.readings s z) ∧ s.writes (e.readings s z) = e.afterReads s z := by
  unfold afterReads Store.withRisk readings
  split
  · exact ⟨Store.roomFor_risk.2 (Store.roomFor_nil _), s.write_risk _⟩
  · exact ⟨s.roomFor_nil, rfl⟩

/-- An assessment that stops before its save leaves what its reads have left. -/
theorem readings_end (e : Engine) (s : Store) (z : EntityRef) (cause : Halt) :
    (⟨.error cause, e.readings s z⟩ : Deed).Ends s (.error cause, .plain (e.afterReads s z)) :=
  .done (e.writes_readings s z).1 (e.writes_readings s z).2.symm

theorem assessing_ends (e : Engine) (s : Store) (z : EntityRef) :
    (e.assessing s z).Ends s ((e.reassess z).run (.plain s)) := by
  rw [reassess_plain]
  cases hverdict : e.verdict s z with
  | error cause =>
      rw [assessing_of_error hverdict]
      exact e.readings_end s z cause
  | ok v =>
      dsimp only
      cases hnext : Word.hasNext v.record.version with
      | false =>
          rw [assessing_of_worn hverdict hnext]
          exact e.readings_end s z .word
      | true =>
          obtain ⟨hentity, -, -⟩ := verdict_eq_ok hverdict
          have hput : (e.afterReads s z).putRisk v.record.next = s.putRisk v.record.next :=
            Store.putRisk_withRisk ((RiskRecord.entity_next _).trans hentity)
          have hopen : (s.putRisk v.record.next).openAlert v.record.entity = s.openAlert z := by
            rw [Store.openAlert, Store.alerts_putRisk, hentity]
            rfl
          have hsettled := v.settle_ends e.now (s.putRisk v.record.next)
          rw [hopen] at hsettled
          rw [assessing_of_ok hverdict hnext, if_pos rfl, hput]
          generalize (v.settle e.now).run (.plain (s.putRisk v.record.next)) = ended at hsettled
          cases hsettled with
          | done hroom ht =>
              refine .done (Store.roomFor_risk.2 hroom) (ht.trans ?_)
              rw [Store.writes_cons, Store.write_risk]
          | full hfull f => exact .full (mt Store.roomFor_risk.1 hfull) f

theorem suggesting_ends (e : Engine) (s : Store) (z : EntityRef) :
    (e.suggesting s z).Ends s ((e.recommend z).run (.plain s)) := by
  cases z with
  | supplier id => exact .done s.roomFor_nil rfl
  | part id =>
      cases hknown : s.knows (.part id) with
      | false =>
          rw [suggesting_of_unknown hknown, recommend_run_of_unknown hknown]
          exact .done s.roomFor_nil rfl
      | true =>
          rw [suggesting_of_known hknown, recommend_of_known hknown, Store.withRisk_of_known hknown]
          have hroom : s.RoomFor (.risk (s.riskOrFresh 0 (.part id)) :: (e.drafts s id).map .suggestion) ↔ _ :=
            Store.roomFor_risk.trans (Store.roomFor_suggestions.trans Store.suggestsAll_iff.symm)
          split
          · rename_i hall
            refine .done (hroom.2 hall) ?_
            rw [Store.writes_cons, Store.write_risk, Store.writes_suggestions]
          · rename_i hnot
            exact .full (mt hroom.1 hnot) _

/-- Without faults, work on an entity comes to what its deed says. -/
theorem deed_ends (e : Engine) (pass : Pass) (s : Store) (z : EntityRef) :
    (e.deed pass s z).Ends s ((e.work pass z).run (.plain s)) := by
  cases pass with
  | suppliers => exact e.assessing_ends s z
  | parts => exact e.assessing_ends s z
  | recommendations => exact e.suggesting_ends s z

/-- The verdict depends on the inventory and on the record of the entity. -/
theorem verdict_congr (hinventory : t.inventory = s.inventory) (hrisk : t.riskRecord? z = s.riskRecord? z) :
    e.verdict t z = e.verdict s z := by
  rw [verdict, verdict, recordFor, recordFor, Store.riskOrFresh, Store.riskOrFresh, hrisk, judge_congr hinventory]

/-- What is done depends on what the store knows about the entity. -/
theorem deed_congr (e : Engine) (hsame : Store.SameFor pass z s t) : e.deed pass t z = e.deed pass s z := by
  have hknows := Store.knows_congr hsame.inventory z
  have hrisk (threshold : UInt8) : t.riskOrFresh threshold z = s.riskOrFresh threshold z := by
    rw [Store.riskOrFresh, Store.riskOrFresh, hsame.risk]
  by_cases hpass : pass = .recommendations
  · subst hpass
    cases z with
    | supplier id => rfl
    | part id =>
        have hdrafts : e.drafts t id = e.drafts s id :=
          drafts_congr hsame.inventory hsame.risk (hsame.suggestions rfl id rfl)
        show e.suggesting t (.part id) = e.suggesting s (.part id)
        simp only [suggesting, hknows, hdrafts, hrisk]
  · rw [deed_of_assesses hpass, deed_of_assesses hpass]
    simp only [assessing, readings, verdict_congr hsame.inventory hsame.risk, hsame.alert hpass, hknows, recordFor,
      hrisk]

/-! ## What is written -/

/-- The writes of a deed: a risk record of the entity, an alert of the entity, or suggestions for the part. -/
inductive Writing (s : Store) (z : EntityRef) : List Write → Prop
  | nothing : Writing s z []
  | risk {r : RiskRecord} (hentity : r.entity = z) : Writing s z [.risk r]
  | alert {r : RiskRecord} {w : Write} {isNew : Bool} {a : Alert} {event : Option EventDraft} (hentity : r.entity = z)
      (hw : w = .alert isNew a event) (halert : w.entity = z) (hknows : s.Knows w) : Writing s z [.risk r, w]
  | suggestions {r : RiskRecord} {drafts : List RecommendationDraft} (hentity : r.entity = z)
      (hdrafts : ∀ d ∈ drafts, z = .part d.part) : Writing s z (.risk r :: drafts.map .suggestion)

theorem readings_writing (e : Engine) (s : Store) (z : EntityRef) : Writing s z (e.readings s z) := by
  unfold readings
  split
  · exact .risk (s.entity_riskOrFresh _ _)
  · exact .nothing

theorem deed_writing (e : Engine) (pass : Pass) (s : Store) (z : EntityRef) :
    Writing s z (e.deed pass s z).writes := by
  by_cases hpass : pass = .recommendations
  · subst hpass
    cases z with
    | supplier id => exact .nothing
    | part id =>
        show Writing s (.part id) (e.suggesting s (.part id)).writes
        cases hknown : s.knows (.part id) with
        | false =>
            rw [suggesting_of_unknown hknown]
            exact .nothing
        | true =>
            rw [suggesting_of_known hknown]
            exact .suggestions (s.entity_riskOrFresh 0 _) fun d hd => congrArg _ (part_of_mem_drafts hd).symm
  · rw [deed_of_assesses hpass]
    cases hverdict : e.verdict s z with
    | error cause =>
        rw [assessing_of_error hverdict]
        exact e.readings_writing s z
    | ok v =>
        cases hversion : Word.hasNext v.record.version with
        | false =>
            rw [assessing_of_worn hverdict hversion]
            exact e.readings_writing s z
        | true =>
            obtain ⟨hentity, -, -⟩ := verdict_eq_ok hverdict
            have hnext : v.record.next.entity = z := by rw [RiskRecord.entity_next, hentity]
            rw [assessing_of_ok hverdict hversion]
            dsimp only [Verdict.settling]
            cases hwrite : v.alertWrite? e.now (s.openAlert z) with
            | none => exact .risk hnext
            | some w =>
                -- An assessment writes its record and at most the alert of its entity.
                have hknows : s.Knows w := Verdict.knows_alertWrite? hwrite
                have halert : w.entity = z :=
                  (Verdict.entity_alertWrite? (fun a ha => (Store.of_openAlert ha).2.2.trans hentity.symm)
                    hwrite).trans hentity
                obtain ⟨a, -, hw⟩ := Option.map_eq_some_iff.1 hwrite
                exact .alert hnext hw.symm halert hknows

theorem Writing.entity {ws : List Write} (hwriting : Writing s z ws) : ∀ w ∈ ws, w.entity = z := by
  cases hwriting with
  | nothing => exact fun w hw => absurd hw List.not_mem_nil
  | risk hentity => exact fun w hw => List.mem_singleton.1 hw ▸ hentity
  | alert hentity hw halert hknows =>
      intro w' hw'
      rcases List.mem_cons.1 hw' with rfl | hw'
      · exact hentity
      · exact List.mem_singleton.1 hw' ▸ halert
  | suggestions hentity hdrafts =>
      intro w hw
      rcases List.mem_cons.1 hw with rfl | hw
      · exact hentity
      · obtain ⟨d, hd, rfl⟩ := List.mem_map.1 hw
        exact (hdrafts d hd).symm

theorem Writing.knows {ws : List Write} (hwriting : Writing s z ws) : ∀ w ∈ ws, s.Knows w := by
  cases hwriting with
  | nothing => exact fun w hw => absurd hw List.not_mem_nil
  | risk hentity =>
      intro w hw
      rw [List.mem_singleton.1 hw]
      trivial
  | alert hentity hw halert hknows =>
      intro w' hw'
      rcases List.mem_cons.1 hw' with rfl | hw'
      · trivial
      · exact List.mem_singleton.1 hw' ▸ hknows
  | suggestions hentity hdrafts =>
      intro w hw
      rcases List.mem_cons.1 hw with rfl | hw
      · trivial
      · obtain ⟨d, -, rfl⟩ := List.mem_map.1 hw
        trivial

theorem Writing.apart {ws : List Write} (hwriting : Writing s z ws) : ws.Pairwise Write.Apart := by
  cases hwriting with
  | nothing => exact .nil
  | risk hentity => exact List.pairwise_singleton _ _
  | alert hentity hw halert hknows =>
      subst hw
      refine List.pairwise_cons.2 ⟨fun w' hw' => ?_, List.pairwise_singleton _ _⟩
      rw [List.mem_singleton.1 hw']
      trivial
  | suggestions hentity hdrafts =>
      refine List.pairwise_cons.2 ⟨fun w hw => ?_, List.pairwise_map.2 (List.pairwise_of_forall fun _ _ => trivial)⟩
      obtain ⟨d, -, rfl⟩ := List.mem_map.1 hw
      trivial

/-- What a deed writes, work on another entity does not notice. -/
theorem sameFor_deed (e : Engine) {z' : EntityRef} (hne : z' ≠ z) (hroom : s.RoomFor (e.deed pass s z').writes)
    (pass' : Pass) :
    Store.SameFor pass' z s (s.writes (e.deed pass s z').writes) := by
  have hwriting := e.deed_writing pass s z'
  exact .writes pass' hwriting.knows hwriting.apart hroom fun w hw => by rw [hwriting.entity w hw]; exact hne

/-! ## Tours -/

/-- The visits of entities, each as if it were the first one. -/
def visitsOf (e : Engine) (pass : Pass) (s : Store) (targets : List EntityRef) : List Visit :=
  targets.filterMap fun z => (e.deed pass s z).visit? z

/-- The writes of visits, each as if it were the first one. -/
def writesOf (e : Engine) (pass : Pass) (s : Store) (targets : List EntityRef) : List Write :=
  targets.flatMap fun z => (e.deed pass s z).writes

/-- The program ends for none of the entities. -/
def Answers (e : Engine) (pass : Pass) (s : Store) (targets : List EntityRef) : Prop :=
  ∀ z ∈ targets, ∃ v, (e.deed pass s z).visit? z = some v

variable {targets : List EntityRef} {visits : List Visit}

theorem entity_of_mem_writesOf {w : Write} (hw : w ∈ e.writesOf pass s targets) : w.entity ∈ targets := by
  obtain ⟨z, hz, hw⟩ := List.mem_flatMap.1 hw
  rwa [(e.deed_writing pass s z).entity w hw]

theorem knows_writesOf (e : Engine) (pass : Pass) (s : Store) (targets : List EntityRef) :
    ∀ w ∈ e.writesOf pass s targets, s.Knows w := by
  intro w hw
  obtain ⟨z, -, hw⟩ := List.mem_flatMap.1 hw
  exact (e.deed_writing pass s z).knows w hw

theorem apart_writesOf (e : Engine) (pass : Pass) (s : Store) (hnodup : targets.Nodup) :
    (e.writesOf pass s targets).Pairwise Write.Apart := by
  refine List.pairwise_flatMap.2 ⟨fun z _ => (e.deed_writing pass s z).apart, ?_⟩
  refine hnodup.imp fun {z z'} hne w hw w' hw' => ?_
  refine Write.apart_of_entity ?_
  rw [(e.deed_writing pass s z).entity w hw, (e.deed_writing pass s z').entity w' hw']
  exact hne

/-- What a tour writes, work on an entity that it does not visit does not notice. -/
theorem sameFor_writesOf (e : Engine) (hnodup : targets.Nodup) (hz : z ∉ targets)
    (hroom : s.RoomFor (e.writesOf pass s targets)) (pass' : Pass) :
    Store.SameFor pass' z s (s.writes (e.writesOf pass s targets)) := by
  refine .writes pass' (e.knows_writesOf pass s targets) (e.apart_writesOf pass s hnodup) hroom fun w hw => ?_
  rintro rfl
  exact hz (entity_of_mem_writesOf hw)

/-- A visit is answered if there is room for what it writes and the program does not end. -/
theorem visitOn_eq_ok_iff {v : Visit} {g : FaultyStore} :
    e.visitOn pass z (.plain s) = .ok v g ↔
      s.RoomFor (e.deed pass s z).writes ∧ (e.deed pass s z).visit? z = some v ∧
        g = .plain (s.writes (e.deed pass s z).writes) := by
  rw [visitOn_plain]
  have hends := e.deed_ends pass s z
  generalize e.deed pass s z = d at hends ⊢
  generalize (e.work pass z).run (.plain s) = ended at hends
  cases hends with
  | full hfull f => exact iff_of_false nofun fun h => hfull h.1
  | done hroom ht =>
      rw [and_iff_right hroom, ht]
      unfold Deed.visit? Visit.ofAttempt
      cases d.result with
      | ok o => simp [eq_comm]
      | error cause => cases cause <;> simp [eq_comm]

/-- After one visit, the others are what they would have been before it. -/
theorem others_after_visit (e : Engine) (hnodup : (z :: targets).Nodup) (hroom : s.RoomFor (e.deed pass s z).writes) :
    ∀ z' ∈ targets, e.deed pass (s.writes (e.deed pass s z).writes) z' = e.deed pass s z' := by
  intro z' hz'
  refine deed_congr e (sameFor_deed e ?_ hroom pass)
  rintro rfl
  exact (List.nodup_cons.1 hnodup).1 hz'

theorem writesOf_congr {t : Store} (hsame : ∀ z ∈ targets, e.deed pass t z = e.deed pass s z) :
    e.writesOf pass t targets = e.writesOf pass s targets := by
  simp only [writesOf, List.flatMap_def]
  rw [List.map_congr_left fun z hz => congrArg Deed.writes (hsame z hz)]

theorem visitsOf_congr {t : Store} (hsame : ∀ z ∈ targets, e.deed pass t z = e.deed pass s z) :
    e.visitsOf pass t targets = e.visitsOf pass s targets :=
  List.filterMap_congr fun z hz => by rw [hsame z hz]

theorem visitsOf_cons {v : Visit} (hvisit : (e.deed pass s z).visit? z = some v) :
    e.visitsOf pass s (z :: targets) = v :: e.visitsOf pass s targets := List.filterMap_cons_some hvisit

theorem writesOf_cons (e : Engine) (pass : Pass) (s : Store) (z : EntityRef) (targets : List EntityRef) :
    e.writesOf pass s (z :: targets) = (e.deed pass s z).writes ++ e.writesOf pass s targets := List.flatMap_cons

/-- There is room for what a tour writes if there is for its first visit, and for the others then. -/
theorem roomFor_writesOf_cons (hnodup : (z :: targets).Nodup) :
    s.RoomFor (e.writesOf pass s (z :: targets)) ↔
      s.RoomFor (e.deed pass s z).writes ∧
        (s.writes (e.deed pass s z).writes).RoomFor
          (e.writesOf pass (s.writes (e.deed pass s z).writes) targets) := by
  have hwriting := e.deed_writing pass s z
  rw [writesOf_cons, Store.roomFor_append hwriting.knows hwriting.apart]
  exact and_congr_right fun hroom => by rw [writesOf_congr (e.others_after_visit hnodup hroom)]

/-- A tour does what each of its visits would have done first. -/
theorem tour_of_answers (e : Engine) (hnodup : targets.Nodup) (hroom : s.RoomFor (e.writesOf pass s targets))
    (hanswers : e.Answers pass s targets) :
    e.tour pass targets (.plain s) =
      .ok (e.visitsOf pass s targets) (.plain (s.writes (e.writesOf pass s targets))) := by
  induction targets generalizing s with
  | nil => rfl
  | cons z rest ih =>
      obtain ⟨v, hv⟩ := hanswers z (by simp)
      obtain ⟨hfirst, hothers⟩ := (roomFor_writesOf_cons hnodup).1 hroom
      have hsame := e.others_after_visit hnodup hfirst
      have hrest := ih (List.nodup_cons.1 hnodup).2 hothers fun z' hz' => by
        rw [hsame z' hz']
        exact hanswers z' (by simp [hz'])
      rw [writesOf_congr hsame, visitsOf_congr hsame] at hrest
      have hvisit := visitOn_eq_ok_iff.2 ⟨hfirst, hv, rfl⟩
      simp only [tour, OnStore.bind_apply, OnStore.pure_apply, hvisit, hrest, visitsOf_cons hv, writesOf_cons,
        Store.writes_append]

/-- A tour makes its first visit, and goes on from what that has written. -/
theorem of_tour_cons {g : FaultyStore} (htour : e.tour pass (z :: targets) (.plain s) = .ok visits g) :
    ∃ v vs, s.RoomFor (e.deed pass s z).writes ∧ (e.deed pass s z).visit? z = some v ∧ v.entity = z ∧
      visits = v :: vs ∧ e.tour pass targets (.plain (s.writes (e.deed pass s z).writes)) = .ok vs g := by
  obtain ⟨v, h, hvisit, vs, hrest, rfl⟩ := tour_cons_eq_ok htour
  have hentity := entity_of_visitOn hvisit
  obtain ⟨hroom, hv, rfl⟩ := visitOn_eq_ok_iff.1 hvisit
  exact ⟨v, vs, hroom, hv, hentity, rfl, hrest⟩

/-- Without faults a tour ends without faults. -/
theorem plain_of_tour {targets : List EntityRef} {g : FaultyStore}
    (htour : e.tour pass targets (.plain s) = .ok visits g) : g = .plain g.store := by
  have hkept := e.tour_keeps pass (I := fun f => f = .plain f.store) targets (f := .plain s)
    (fun z _ f hf => ?_) rfl
  · rwa [OnStore.after_of_ok htour] at hkept
  · rw [hf]
    exact (e.work pass z).run_plain f.store

/-- A tour that is finished has found room for what it writes, and has done what each of its visits would have done
first. -/
theorem answers_of_tour {g : FaultyStore} (hnodup : targets.Nodup)
    (htour : e.tour pass targets (.plain s) = .ok visits g) :
    s.RoomFor (e.writesOf pass s targets) ∧ e.Answers pass s targets ∧ visits = e.visitsOf pass s targets ∧
      g = .plain (s.writes (e.writesOf pass s targets)) := by
  induction targets generalizing s visits with
  | nil =>
      cases htour
      exact ⟨s.roomFor_nil, fun z hz => absurd hz List.not_mem_nil, rfl, rfl⟩
  | cons z rest ih =>
      obtain ⟨v, vs, hroom, hv, -, rfl, hrest⟩ := of_tour_cons htour
      have hothers := e.others_after_visit hnodup hroom
      obtain ⟨hrooms, hanswers, hvisits, rfl⟩ := ih (List.nodup_cons.1 hnodup).2 hrest
      refine ⟨(roomFor_writesOf_cons hnodup).2 ⟨hroom, hrooms⟩, fun z' hz' => ?_, ?_, ?_⟩
      · rcases List.mem_cons.1 hz' with rfl | hz'
        · exact ⟨v, hv⟩
        · rw [← hothers z' hz']
          exact hanswers z' hz'
      · rw [hvisits, visitsOf_congr hothers, visitsOf_cons hv]
      · rw [writesOf_cons, Store.writes_append, writesOf_congr hothers]

end Engine

end SupplyRisk
