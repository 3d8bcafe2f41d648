import SupplyRisk.Proofs.Alert.History
import SupplyRisk.Proofs.Alert.Reconcile

/-!
# Alerts tell their histories

Reconciliations and resolutions come in any order and for any entities, and all of them write to one roster of
numbered alerts.  Still the alerts of one entity, in the order of their numbers, are those that its own history
calls for: `step_tells` for one step and `run_tells` for a run.  What a step writes is either a new alert behind
all others or an alert in the place of an open one, so an alert that is resolved stays as it is
(`run_keeps_resolved`).
-/

namespace SupplyRisk

/-- A step of the alerts' life. -/
inductive AlertStep where
  | reconcile (context : AlertContext) (now : Instant)
  | resolve (id : AlertId) (resolver : Option String) (now : Instant)

namespace Store

/-- What a step leaves behind, with or without success. -/
def afterStep (s : Store) : AlertStep → Store
  | .reconcile context now => ((context.reconcile now).run (.plain s)).2.store
  | .resolve id resolver now => ((resolveAlert id resolver now).run (.plain s)).2.store

def afterSteps (s : Store) (steps : List AlertStep) : Store := steps.foldl afterStep s

/-- The alerts of an entity, by number. -/
def alertsOf (s : Store) (entity : EntityRef) : List Alert :=
  s.alerts.rows.filter (fun a => a.entity = entity)

end Store

/-- What a step means for an entity: a report, a reset, or nothing. -/
def AlertStep.mark? (s : Store) (entity : EntityRef) : AlertStep → Option Mark
  | .reconcile context now =>
      if context.entity = entity then
        some (if context.level = .low then .reset ⟨now, none⟩ else .report ⟨context, now⟩)
      else none
  | .resolve id resolver now =>
      if ∃ a ∈ s.alerts.rows, a.id = id ∧ a.isOpen = true ∧ a.entity = entity then
        some (.reset ⟨now, resolver⟩)
      else none

/-- What the steps of a run mean for an entity. -/
def marks (entity : EntityRef) : Store → List AlertStep → List Mark
  | _, [] => []
  | s, a :: as => (a.mark? s entity).toList ++ marks entity (s.afterStep a) as

/-- The history of an entity over a run. -/
def history (entity : EntityRef) (s : Store) (steps : List AlertStep) : History :=
  (marks entity s steps).foldl History.add .empty

namespace Store

variable {s t : Store} {entity : EntityRef} {a b x : Alert}

theorem mem_alertsOf_iff : a ∈ s.alertsOf entity ↔ a ∈ s.alerts.rows ∧ a.entity = entity := by
  rw [alertsOf, List.mem_filter, decide_eq_true_eq]

theorem eq_of_id_eq (ha : a ∈ s.alerts.rows) (hb : b ∈ s.alerts.rows) (hid : a.id = b.id) :
    a = b :=
  Roster.eq_of_rank_eq ha hb (AlertId.toNat_inj.2 hid)

theorem mem_putAlert_iff : b ∈ (s.putAlert x).alerts.rows ↔ b = x ∨ b ∈ s.alerts.rows ∧ b.id ≠ x.id :=
  mem_alerts_insert_iff

/-- A new alert has a number above all others. -/
theorem lt_id_of_new (hfit : s.AlertNumbersFit) {draft : AlertDraft}
    (ha : a = .ofDraft ⟨nextNumber s.alerts⟩ draft) :
    ∀ b ∈ s.alerts.rows, b.id.value.toNat < a.id.value.toNat := by
  intro b hmem
  rw [ha]
  exact lt_nextNumber hmem hfit

/-! ## Where an alert is written -/

/-- An alert with a new number stands behind all others. -/
theorem alertsOf_putAlert_of_gt (hgt : ∀ b ∈ s.alerts.rows, b.id.value.toNat < x.id.value.toNat) :
    (s.putAlert x).alertsOf entity =
      s.alertsOf entity ++ if x.entity = entity then [x] else [] := by
  have hrows : (s.putAlert x).alerts.rows = s.alerts.rows ++ [x] := Roster.rows_insert_of_gt hgt
  rw [alertsOf, hrows, List.filter_append]
  by_cases hx : x.entity = entity
  · simp [hx, alertsOf]
  · simp [hx, alertsOf]

/-- An alert with a number that is taken stands where the one with the number stood. -/
theorem alertsOf_putAlert_of_mem (hmem : a ∈ s.alerts.rows) (hid : x.id = a.id)
    (hentity : x.entity = a.entity) :
    (s.putAlert x).alertsOf entity =
      (s.alertsOf entity).map (fun b => if b.id = a.id then x else b) := by
  have hrows : (s.putAlert x).alerts.rows =
      s.alerts.rows.map (fun b => if b.id = a.id then x else b) := by
    have hinsert := Roster.rows_insert_of_mem (r := s.alerts) (a := x)
      ⟨a, hmem, AlertId.toNat_inj.2 hid.symm⟩
    refine hinsert.trans (List.map_congr_left fun b _ => ?_)
    have hkey : Ranked.rank b = Ranked.rank x ↔ b.id = a.id := by
      rw [← hid]
      exact AlertId.toNat_inj
    by_cases hb : b.id = a.id
    · rw [if_pos (hkey.2 hb), if_pos hb]
    · rw [if_neg (mt hkey.1 hb), if_neg hb]
  rw [alertsOf, hrows, List.filter_map, alertsOf]
  -- The alert that is replaced keeps its entity, so the same places are filtered.
  congr 1
  apply List.filter_congr
  intro b hb
  by_cases hba : b.id = a.id
  · have hsame : b = a := eq_of_id_eq hb hmem hba
    simp [hsame, hentity]
  · simp [hba]

/-- Other entities do not notice that an alert is replaced. -/
theorem alertsOf_putAlert_of_ne (hmem : a ∈ s.alerts.rows) (hid : x.id = a.id)
    (hentity : x.entity = a.entity) (hne : a.entity ≠ entity) :
    (s.putAlert x).alertsOf entity = s.alertsOf entity := by
  rw [alertsOf_putAlert_of_mem hmem hid hentity]
  refine (List.map_congr_left fun b hb => ?_).trans (List.map_id _)
  obtain ⟨hbmem, hbentity⟩ := mem_alertsOf_iff.1 hb
  have hba : b.id ≠ a.id := by
    intro h
    rw [eq_of_id_eq hbmem hmem h] at hbentity
    exact hne hbentity
  rw [if_neg hba, id]

/-- The last alert of an entity is replaced. -/
theorem alertsOf_putAlert_of_last {old : List Alert} (hlast : s.alertsOf entity = old ++ [a])
    (hid : x.id = a.id) (hentity : x.entity = a.entity) :
    (s.putAlert x).alertsOf entity = old ++ [x] := by
  have hmem : a ∈ s.alertsOf entity := by
    rw [hlast]
    exact List.mem_append_right old List.mem_cons_self
  rw [alertsOf_putAlert_of_mem (mem_alertsOf_iff.1 hmem).1 hid hentity, hlast, List.map_append]
  -- Numbers ascend, so no older alert has the number of the last one.
  have hasc : (old ++ [a]).Pairwise (fun b c => b.id.value.toNat < c.id.value.toNat) := by
    rw [← hlast]
    exact s.alerts.ascending.filter _
  have hold : old.map (fun b => if b.id = a.id then x else b) = old := by
    refine (List.map_congr_left fun b hb => ?_).trans (List.map_id _)
    have hlt := (List.pairwise_append.1 hasc).2.2 b hb a (by simp)
    have hba : b.id ≠ a.id := by
      intro h
      rw [h] at hlt
      exact Nat.lt_irrefl _ hlt
    rw [if_neg hba, id]
  rw [hold]
  simp

/-! ## What a step writes -/

theorem afterStep_reconcile (s : Store) (c : AlertContext) (now : Instant) :
    (∃ alert, c.Reconciles now s alert (s.afterStep (.reconcile c now))) ∨
      s.afterStep (.reconcile c now) = s ∧ c.LacksNumber s := by
  rcases c.reconcile_run now (.plain s) with ⟨o, t, hrun, hdoes⟩ | ⟨hrun, hlacks⟩
  · refine .inl ⟨o.alert, ?_⟩
    rwa [afterStep, hrun]
  · refine .inr ⟨?_, hlacks⟩
    rw [afterStep, hrun]
    rfl

/-- As long as numbers fit, reconciling does what it is for. -/
theorem AlertNumbersFit.reconciles (hfit : s.AlertNumbersFit) (c : AlertContext) (now : Instant) :
    ∃ alert, c.Reconciles now s alert (s.afterStep (.reconcile c now)) := by
  refine (s.afterStep_reconcile c now).resolve_right fun hlacks => ?_
  have hfull := hlacks.2.full
  rw [hasNext_iff.2 hfit] at hfull
  cases hfull

theorem afterStep_resolve (s : Store) (id : AlertId) (resolver : Option String) (now : Instant) :
    Resolves id resolver now s (s.afterStep (.resolve id resolver now)) := by
  obtain ⟨result, t, hrun, hdoes⟩ := resolveAlert_run id resolver now (.plain s)
  rwa [afterStep, hrun]

/-- A step writes nothing, a new alert, or an alert in the place of an open one. -/
theorem afterStep_cases (s : Store) (step : AlertStep) :
    s.afterStep step = s ∨
      (∃ x, s.afterStep step = s.putAlert x ∧ x.id = ⟨nextNumber s.alerts⟩) ∨
      ∃ a x, s.afterStep step = s.putAlert x ∧ a ∈ s.alerts.rows ∧ a.isOpen = true ∧
        x.id = a.id := by
  cases step with
  | reconcile c now =>
      obtain ⟨alert, hdoes⟩ | ⟨hsame, -⟩ := s.afterStep_reconcile c now
      rotate_left
      · exact .inl hsame
      generalize s.afterStep (.reconcile c now) = t at hdoes ⊢
      cases hdoes with
      | idle hnone hlow => exact .inl rfl
      | opens hnone hlevel ha => exact .inr (.inl ⟨_, rfl, congrArg Alert.id ha⟩)
      | resolves hopen hlow =>
          obtain ⟨hmem, hisOpen, -⟩ := of_openAlert hopen
          exact .inr (.inr ⟨_, _, rfl, hmem, hisOpen, rfl⟩)
      | escalates hopen hlt =>
          obtain ⟨hmem, hisOpen, -⟩ := of_openAlert hopen
          exact .inr (.inr ⟨_, _, rfl, hmem, hisOpen, rfl⟩)
      | keeps hopen hlow hle => exact .inl rfl
  | resolve id resolver now =>
      have hdoes := s.afterStep_resolve id resolver now
      generalize s.afterStep (.resolve id resolver now) = t at hdoes ⊢
      cases hdoes with
      | closes hmem hid hopen => exact .inr (.inr ⟨_, _, rfl, hmem, hopen, rfl⟩)
      | leaves hnone => exact .inl rfl

/-! ## Numbers -/

theorem knowsAlert_afterStep {id : AlertId} (hknown : s.KnowsAlert id) (step : AlertStep) :
    (s.afterStep step).KnowsAlert id := by
  rcases s.afterStep_cases step with hsame | ⟨x, hafter, -⟩ | ⟨a, x, hafter, -⟩
  · rwa [hsame]
  · rw [hafter]
    exact knowsAlert_insert hknown rfl
  · rw [hafter]
    exact knowsAlert_insert hknown rfl

theorem knowsAlert_afterSteps {id : AlertId} (hknown : s.KnowsAlert id) (steps : List AlertStep) :
    (s.afterSteps steps).KnowsAlert id := by
  induction steps generalizing s with
  | nil => exact hknown
  | cons step steps ih => exact ih (knowsAlert_afterStep hknown step)

/-- If numbers fit at the end of a run, they fit at its start. -/
theorem fit_of_run (steps : List AlertStep) (hfit : (s.afterSteps steps).AlertNumbersFit) :
    s.AlertNumbersFit :=
  hfit.of_later fun _ hknown => knowsAlert_afterSteps hknown steps

/-- A step raises the greatest number by one at most. -/
theorem id_le_afterStep {n : Nat} (hle : ∀ a ∈ s.alerts.rows, a.id.value.toNat ≤ n)
    (step : AlertStep) : ∀ a ∈ (s.afterStep step).alerts.rows, a.id.value.toNat ≤ n + 1 := by
  have hput {x : Alert} (hx : x.id.value.toNat ≤ n + 1) :
      ∀ a ∈ (s.putAlert x).alerts.rows, a.id.value.toNat ≤ n + 1 := by
    intro a hmem
    rcases mem_putAlert_iff.1 hmem with rfl | ⟨hold, -⟩
    · exact hx
    · exact Nat.le_succ_of_le (hle a hold)
  rcases s.afterStep_cases step with hsame | ⟨x, hafter, hid⟩ | ⟨b, x, hafter, hb, -, hid⟩
  · rw [hsame]
    exact fun a hmem => Nat.le_succ_of_le (hle a hmem)
  · rw [hafter]
    refine hput ?_
    rw [hid]
    exact nextNumber_le hle
  · rw [hafter]
    refine hput ?_
    rw [hid]
    exact Nat.le_succ_of_le (hle b hb)

theorem id_le_afterSteps {n : Nat} (hle : ∀ a ∈ s.alerts.rows, a.id.value.toNat ≤ n)
    (steps : List AlertStep) :
    ∀ a ∈ (s.afterSteps steps).alerts.rows, a.id.value.toNat ≤ n + steps.length := by
  induction steps generalizing s n with
  | nil => exact hle
  | cons step steps ih =>
      have hrun := ih (id_le_afterStep hle step)
      rwa [Nat.add_assoc, Nat.add_comm 1] at hrun

/-- Numbers fit after any run that has fewer steps than there are numbers. -/
theorem fit_of_length (hnone : s.alerts.rows = []) {steps : List AlertStep}
    (hlength : steps.length + 1 < Word.count64) : (s.afterSteps steps).AlertNumbersFit := by
  have hle : ∀ a ∈ s.alerts.rows, a.id.value.toNat ≤ 0 := by
    intro a hmem
    rw [hnone] at hmem
    cases hmem
  intro a hmem
  have hbound := id_le_afterSteps hle steps a hmem
  omega

/-! ## Resolved alerts -/

/-- A step leaves resolved alerts alone. -/
theorem afterStep_keeps_resolved (hfit : s.AlertNumbersFit) (step : AlertStep)
    (hmem : b ∈ s.alerts.rows) (hresolved : b.isOpen = false) :
    b ∈ (s.afterStep step).alerts.rows := by
  rcases s.afterStep_cases step with hsame | ⟨x, hput, hid⟩ | ⟨a, x, hput, ha, hopen, hid⟩
  · rwa [hsame]
  · have hne : b.id ≠ x.id := by
      intro h
      have hlt : b.id.value.toNat < (nextNumber s.alerts).toNat := lt_nextNumber hmem hfit
      rw [h, hid] at hlt
      exact Nat.lt_irrefl _ hlt
    rw [hput, mem_putAlert_iff]
    exact .inr ⟨hmem, hne⟩
  · have hne : b.id ≠ x.id := by
      intro h
      rw [eq_of_id_eq hmem ha (h.trans hid), hopen] at hresolved
      cases hresolved
    rw [hput, mem_putAlert_iff]
    exact .inr ⟨hmem, hne⟩

theorem run_keeps_resolved {steps : List AlertStep} (hfit : (s.afterSteps steps).AlertNumbersFit)
    (hmem : b ∈ s.alerts.rows) (hresolved : b.isOpen = false) :
    b ∈ (s.afterSteps steps).alerts.rows := by
  induction steps generalizing s with
  | nil => exact hmem
  | cons step steps ih =>
      have hstart : s.AlertNumbersFit := fit_of_run (step :: steps) hfit
      exact ih hfit (afterStep_keeps_resolved hstart step hmem hresolved)

/-! ## Histories -/

theorem none_open_of_openAlert (hnone : s.openAlert entity = none) :
    ∀ a ∈ s.alertsOf entity, a.isOpen = false := by
  intro a hmem
  obtain ⟨hrow, hentity⟩ := mem_alertsOf_iff.1 hmem
  exact Bool.eq_false_iff.2 fun hopen => openAlert_eq_none_iff.1 hnone ⟨a, hrow, hopen, hentity⟩

theorem mem_alertsOf_of_openAlert (hopen : s.openAlert entity = some a) : a ∈ s.alertsOf entity :=
  mem_alertsOf_iff.2 ⟨(of_openAlert hopen).1, (of_openAlert hopen).2.2⟩

/-- Reconciling an entity adds its mark to the history that the alerts tell. -/
theorem reconcile_tells {c : AlertContext} {now : Instant} {alert : Option Alert} {h : History}
    (hfit : s.AlertNumbersFit) (hdoes : c.Reconciles now s alert t)
    (htells : h.Tells (s.alertsOf c.entity)) :
    (h.add (if c.level = .low then .reset ⟨now, none⟩ else .report ⟨c, now⟩)).Tells
      (t.alertsOf c.entity) := by
  cases hdoes with
  | idle hnone hlow =>
      have hcurrent := (htells.of_none_open (none_open_of_openAlert hnone)).1
      rwa [if_pos hlow, History.add_reset_of_nil hcurrent]
  | @opens a hnone hlevel ha =>
      have hentity : a.entity = c.entity := by rw [ha]; rfl
      rw [alertsOf_putAlert_of_gt (lt_id_of_new hfit ha), if_pos hentity,
        if_neg (Level.medium_le_iff.1 hlevel), ha]
      exact htells.start (none_open_of_openAlert hnone) ⟨c, now⟩ _
  | @resolves a hopen hlow =>
      obtain ⟨old, g, hrows, hold, hcurrent, ha⟩ :=
        htells.of_open (mem_alertsOf_of_openAlert hopen) (of_openAlert hopen).2.1
      rw [alertsOf_putAlert_of_last (x := a.resolve now none) hrows rfl rfl, if_pos hlow, ha]
      exact History.tells_reset hold hcurrent ⟨now, none⟩ a.id
  | @escalates a hopen hlt =>
      obtain ⟨old, g, hrows, hold, hcurrent, ha⟩ :=
        htells.of_open (mem_alertsOf_of_openAlert hopen) (of_openAlert hopen).2.1
      -- The alert shows the peak, so it escalates exactly when the report is above the peak.
      have hraise : g.peak.level < (Report.mk c now).level := by
        rw [ha] at hlt
        exact hlt
      have hrecord : (g.add ⟨c, now⟩).record none a.id = c.escalated a c.level now := by
        rw [Segment.record_add_of_lt hraise, ← ha]
        rfl
      rw [alertsOf_putAlert_of_last (x := c.escalated a c.level now) hrows rfl rfl,
        if_neg (Level.ne_low_of_lt hlt), ← hrecord]
      exact History.tells_report hold hcurrent ⟨c, now⟩ a.id
  | @keeps a hopen hlow hle =>
      obtain ⟨old, g, hrows, hold, hcurrent, ha⟩ :=
        htells.of_open (mem_alertsOf_of_openAlert hopen) (of_openAlert hopen).2.1
      have hraise : ¬ g.peak.level < (Report.mk c now).level := by
        rw [ha] at hle
        exact hle
      have hrecord : (g.add ⟨c, now⟩).record none a.id = a := by
        rw [Segment.record_add_of_not_lt hraise, ← ha]
      rw [hrows, if_neg hlow, ← hrecord]
      exact History.tells_report hold hcurrent ⟨c, now⟩ a.id

/-- Other entities do not notice that an entity is reconciled. -/
theorem reconcile_frame {c : AlertContext} {now : Instant} {alert : Option Alert}
    (hfit : s.AlertNumbersFit) (hdoes : c.Reconciles now s alert t) (hne : c.entity ≠ entity) :
    t.alertsOf entity = s.alertsOf entity := by
  cases hdoes with
  | idle hnone hlow => rfl
  | @opens a hnone hlevel ha =>
      have hother : ¬ a.entity = entity := by rw [ha]; exact hne
      rw [alertsOf_putAlert_of_gt (lt_id_of_new hfit ha), if_neg hother, List.append_nil]
  | resolves hopen hlow =>
      obtain ⟨hmem, -, hentity⟩ := of_openAlert hopen
      exact alertsOf_putAlert_of_ne hmem rfl rfl (hentity ▸ hne)
  | escalates hopen hlt =>
      obtain ⟨hmem, -, hentity⟩ := of_openAlert hopen
      exact alertsOf_putAlert_of_ne hmem rfl rfl (hentity ▸ hne)
  | keeps hopen hlow hle => rfl

/-- One step: the alerts of an entity go on telling its history. -/
theorem step_tells (hfit : s.AlertNumbersFit) {h : History} (htells : h.Tells (s.alertsOf entity))
    (step : AlertStep) :
    ((step.mark? s entity).toList.foldl History.add h).Tells
      ((s.afterStep step).alertsOf entity) := by
  cases step with
  | reconcile c now =>
      obtain ⟨alert, hdoes⟩ := hfit.reconciles c now
      by_cases hentity : c.entity = entity
      · subst hentity
        have hmark : AlertStep.mark? s c.entity (.reconcile c now) =
            some (if c.level = .low then .reset ⟨now, none⟩ else .report ⟨c, now⟩) := if_pos rfl
        rw [hmark]
        exact reconcile_tells hfit hdoes htells
      · have hmark : AlertStep.mark? s entity (.reconcile c now) = none := if_neg hentity
        rw [hmark, reconcile_frame hfit hdoes hentity]
        exact htells
  | resolve id resolver now =>
      have hdoes := s.afterStep_resolve id resolver now
      generalize s.afterStep (.resolve id resolver now) = t at hdoes ⊢
      cases hdoes with
      | @closes a hmem hid hopen =>
          by_cases hentity : a.entity = entity
          · have hmark : AlertStep.mark? s entity (.resolve id resolver now) =
                some (.reset ⟨now, resolver⟩) := if_pos ⟨a, hmem, hid, hopen, hentity⟩
            obtain ⟨old, g, hrows, hold, hcurrent, ha⟩ :=
              htells.of_open (mem_alertsOf_iff.2 ⟨hmem, hentity⟩) hopen
            rw [hmark, alertsOf_putAlert_of_last (x := a.resolve now resolver) hrows rfl rfl, ha]
            exact History.tells_reset hold hcurrent ⟨now, resolver⟩ a.id
          · have hmark : AlertStep.mark? s entity (.resolve id resolver now) = none := by
              apply if_neg
              rintro ⟨b, hb, hbid, -, hbentity⟩
              rw [eq_of_id_eq hb hmem (hbid.trans hid.symm)] at hbentity
              exact hentity hbentity
            rw [hmark, alertsOf_putAlert_of_ne (x := a.resolve now resolver) hmem rfl rfl hentity]
            exact htells
      | leaves hclosed =>
          -- No two alerts have one number, so nothing of this entity is resolved.
          have hmark : AlertStep.mark? s entity (.resolve id resolver now) = none := by
            apply if_neg
            rintro ⟨b, hb, hbid, hopen, -⟩
            rw [hclosed b hb hbid] at hopen
            cases hopen
          rw [hmark]
          exact htells

/-- A run: the alerts of an entity go on telling its history. -/
theorem run_tells {steps : List AlertStep} (hfit : (s.afterSteps steps).AlertNumbersFit)
    {h : History} (htells : h.Tells (s.alertsOf entity)) :
    ((marks entity s steps).foldl History.add h).Tells ((s.afterSteps steps).alertsOf entity) := by
  induction steps generalizing s h with
  | nil => exact htells
  | cons step steps ih =>
      have hstart : s.AlertNumbersFit := fit_of_run (step :: steps) hfit
      rw [marks, List.foldl_append]
      exact ih hfit (step_tells hstart htells step)

/-- **The alerts of an entity tell its history.**  Any steps, for any entities and in any order, start from a
store without alerts.  Then an entity has an open alert exactly when it was reported since its last reset.
The alert shows the first report of the highest level with its message; it opened at the first report and
escalated last at the last report that strictly raised the highest level.  There is one alert for every
segment of reports between resets, and an alert that is resolved at some point of the run stays as it is.
Alert numbers must not have reached the greatest word, behind which there is no next one; a run of fewer
steps never gets there (`fit_of_length`). -/
theorem alerts_tell_history (s : Store) (hnone : s.alerts.rows = []) (steps : List AlertStep)
    (hfit : (s.afterSteps steps).AlertNumbersFit) (entity : EntityRef) :
    let t := s.afterSteps steps
    let h := history entity s steps
    h.Tells (t.alertsOf entity) ∧
    (t.HasOpenAlert entity ↔ h.current ≠ []) ∧
    (∀ a ∈ t.alerts.rows, a.isOpen = true → a.entity = entity →
      ∃ first later before peak after,
        h.current = first :: later ∧ h.current = before ++ peak :: after ∧
        (∀ r ∈ before, r.level < peak.level) ∧ (∀ r ∈ after, r.level ≤ peak.level) ∧
        a.level = peak.level ∧ a.message = peak.context.message ∧
        a.openedAt = first.time ∧
        a.escalatedAt = (raises first later).getLast?.map (·.time)) ∧
    (t.alertsOf entity).length = h.segmentCount ∧
    (∀ before after, steps = before ++ after →
      ∀ a ∈ (s.afterSteps before).alerts.rows, a.isOpen = false → a ∈ t.alerts.rows) := by
  intro t h
  -- Without alerts the empty history is told, and every step adds to it.
  have hstart : History.empty.Tells (s.alertsOf entity) := by
    rw [alertsOf, hnone]
    exact .settled .nil rfl
  have htells : h.Tells (t.alertsOf entity) := run_tells hfit hstart
  refine ⟨htells, ⟨?_, ?_⟩, fun a hmem hopen hentity => ?_, htells.length_eq,
    fun before after hsplit a hmem hresolved => ?_⟩
  · rintro ⟨a, hmem, hopen, hentity⟩
    obtain ⟨old, g, -, -, hcurrent, -⟩ := htells.of_open (mem_alertsOf_iff.2 ⟨hmem, hentity⟩) hopen
    rw [hcurrent]
    exact List.cons_ne_nil g.first g.later
  · intro hcurrent
    cases hopen : t.openAlert entity with
    | none => exact absurd (htells.of_none_open (none_open_of_openAlert hopen)).1 hcurrent
    | some a => exact hasOpenAlert_iff.2 ⟨a, hopen⟩
  · obtain ⟨old, g, -, -, hcurrent, ha⟩ := htells.of_open (mem_alertsOf_iff.2 ⟨hmem, hentity⟩) hopen
    obtain ⟨before, after, hsplit, hbefore, hafter⟩ := peakOf_spec g.first g.later
    refine ⟨g.first, g.later, before, g.peak, after, hcurrent, hcurrent.trans hsplit, hbefore,
      hafter, ?_⟩
    rw [ha]
    exact ⟨rfl, rfl, rfl, rfl⟩
  · have hrun : t = (s.afterSteps before).afterSteps after := by
      simp only [t, afterSteps, hsplit, List.foldl_append]
    have hfitRun : ((s.afterSteps before).afterSteps after).AlertNumbersFit := hrun ▸ hfit
    rw [hrun]
    exact run_keeps_resolved hfitRun hmem hresolved

/-- A report about the first supplier. -/
def sampleReport (level : Level) (day : Date) : AlertStep :=
  .reconcile ⟨.supplier ⟨1⟩, level, .delivery, "supplier_risk", level.label⟩ (.midnight day)

/-- A supplier is reported, resolved by a reviewer, and then reported twice at rising levels.  It has two
alerts in all, of which one is open. -/
theorem reviewer_starts_new_segment :
    let steps := [sampleReport .high ⟨19000, by decide, by decide⟩,
      .resolve ⟨1⟩ (some "reviewer") (.midnight ⟨19001, by decide, by decide⟩),
      sampleReport .medium ⟨19002, by decide, by decide⟩,
      sampleReport .critical ⟨19003, by decide, by decide⟩]
    let t := empty.afterSteps steps
    t.HasOpenAlert (.supplier ⟨1⟩) ∧ (t.alertsOf (.supplier ⟨1⟩)).length = 2 := by
  intro steps t
  have hfit : t.AlertNumbersFit := fit_of_length rfl (by decide)
  obtain ⟨-, hopen, -, hlength, -⟩ := alerts_tell_history empty rfl steps hfit (.supplier ⟨1⟩)
  exact ⟨hopen.2 (List.cons_ne_nil _ _), hlength⟩

end Store

end SupplyRisk
