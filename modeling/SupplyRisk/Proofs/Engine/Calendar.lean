import SupplyRisk.Config.Loading
import SupplyRisk.Proofs.Calendar.Reach
import SupplyRisk.Proofs.Engine.Calls

/-!
# Staying in the calendar

An engine reckons with days and hours before and after its clock: the first day of the history window, the day of the
next assessment, the instant from which alerts are sent out.  If one of them is not in the calendar, some run or
reassessment leaves it, and if all of them are, none does (`completes_iff_inCalendar`).  The check of a configuration
bounds these settings from below only, and accepts a window of more days than there are
(`accepted_window_leaves_calendar`).  Which accepted configurations can be relied on at every time from year 1 to year
9999 is a matter of three more bounds, and of a time limit that a clock can reach (`accepted_settings_complete_iff`).
-/

namespace SupplyRisk

/-! ## Work on one entity -/

namespace AlertContext

theorem dated_apply (c : AlertContext) (current : Option Alert) (now : Instant) : (c.apply current now).Dated := by
  dsimp only [apply]
  split
  · exact Script.dated_bind (Script.dated_ask _) fun _ => trivial
  · exact Script.dated_bind (Script.dated_ask _) fun _ => trivial
  · exact Script.dated_bind (Script.dated_ask _) fun _ => trivial
  · trivial

theorem dated_reconcile (c : AlertContext) (now : Instant) : (c.reconcile now).Dated := by
  refine Script.dated_bind (Script.dated_ask _) fun current => ?_
  refine Script.dated_recover (c.dated_apply current now) fun e => ?_
  split
  · exact Script.dated_bind (Script.dated_ask _) fun current => c.dated_apply current now
  · exact fun h => nomatch h

end AlertContext

theorem dated_logPendingEvent (alert : Option Alert) (triggered : Bool) (draft : EventDraft) :
    (logPendingEvent alert triggered draft).Dated := by
  unfold logPendingEvent
  split
  · trivial
  · split
    · split
      · refine Script.dated_bind (Script.dated_ask _) fun event => ?_
        exact Script.dated_bind (Script.dated_ask _) fun _ => trivial
      · exact Script.dated_bind (Script.dated_ask _) fun _ => trivial
    · trivial

theorem Suggestion.dated_insertAll (drafts : List RecommendationDraft) : (insertAll drafts).Dated := by
  induction drafts with
  | nil => trivial
  | cons draft drafts ih =>
      refine Script.dated_bind (Script.dated_attempt _) fun answer => ?_
      split
      · exact Script.dated_bind ih fun _ => trivial
      · exact ih
      · exact fun h => nomatch h

namespace Engine

/-- Everything that the engine reckons with is in the calendar. -/
structure InCalendar (e : Engine) : Prop where
  window : (windowStart? e.today e.config.scoring.historyWindowDays).isSome = true
  nextAssessment : (e.today.addDays? e.config.alerts.nextAssessmentIntervalDays.toNat).isSome = true
  cutoff : (e.now.subHours? e.config.alerts.lookbackHours.toNat).isSome = true
  deadline : e.config.run.isReachable .still = true

variable {e : Engine}

theorem InCalendar.assess? (hin : e.InCalendar) (r : SupplierRisk) (a : SupplierAssessment) :
    (r.assess? a e.today e.config.alerts.nextAssessmentIntervalDays).isSome = true := by
  rw [SupplierRisk.assess?, Option.isSome_map]
  unfold SupplierRisk.scheduled?
  split
  · split
    · exact hin.nextAssessment
    · rfl
  · exact hin.nextAssessment

theorem dated_reassess (hin : e.InCalendar) (entity : EntityRef) : (e.reassess entity).Dated := by
  have hwindow : e.windowStart.Dated := Script.dated_inCalendar hin.window
  cases entity with
  | supplier id =>
      refine Script.dated_bind (Script.dated_ask _) fun history => ?_
      refine Script.dated_bind (Script.dated_ask _) fun record => ?_
      refine Script.dated_bind ?_ fun saved => ?_
      · refine Script.dated_bind hwindow fun start => ?_
        refine Script.dated_bind (Script.dated_inCalendar (hin.assess? record _)) fun assessed => ?_
        exact Script.dated_bind (Script.dated_ask _) fun _ => trivial
      · refine Script.dated_bind (AlertContext.dated_reconcile _ _) fun outcome => ?_
        exact Script.dated_bind (dated_logPendingEvent _ _ _) fun _ => trivial
  | part id =>
      refine Script.dated_bind (Script.dated_ask _) fun history => ?_
      refine Script.dated_bind (Script.dated_ask _) fun record => ?_
      refine Script.dated_bind (Script.dated_bind hwindow fun start => Script.dated_ask _) fun saved => ?_
      refine Script.dated_bind (AlertContext.dated_reconcile _ _) fun outcome => ?_
      exact Script.dated_bind (dated_logPendingEvent _ _ _) fun _ => trivial

/-- Suggestions have nothing to do with dates. -/
theorem dated_recommend (e : Engine) (entity : EntityRef) : (e.recommend entity).Dated := by
  cases entity with
  | supplier id => trivial
  | part id =>
      refine Script.dated_bind ?_ fun _ => trivial
      refine Script.dated_bind (Script.dated_ask _) fun history => ?_
      refine Script.dated_bind (Script.dated_ask _) fun record => ?_
      unfold Suggestion.generate
      split
      · refine Script.dated_bind (Script.dated_ask _) fun offerings => ?_
        exact Script.dated_bind (Script.dated_ask _) fun existing => Suggestion.dated_insertAll _
      · trivial

theorem dated_work (hin : e.InCalendar) (pass : Pass) (entity : EntityRef) : (e.work pass entity).Dated := by
  cases pass with
  | suppliers => exact dated_reassess hin entity
  | parts => exact dated_reassess hin entity
  | recommendations => exact e.dated_recommend entity

end Engine

/-! ## Runs -/

namespace Script

variable {α β : Type}

theorem dated_pure (a : α) : (pure a : Script α).Dated := trivial

theorem dated_foldlM {g : β → α → Script β} (hg : ∀ b a, (g b a).Dated) (as : List α) (b : β) :
    (as.foldlM g b).Dated := by
  induction as generalizing b with
  | nil => trivial
  | cons a as ih =>
      rw [List.foldlM_cons]
      exact dated_bind (hg b a) ih

theorem dated_repeated {x : Script α} (hx : x.Dated) (p : RetryPolicy) (late : Nat → Bool)
    (conflicts transients : Nat) : (x.repeated p late conflicts transients).Dated := by
  induction conflicts, transients using repeated.induct p with
  | case1 conflicts transients ihconflict ihtransient =>
      rw [repeated]
      refine dated_recover hx fun e => ?_
      split
      · rename_i hallows
        split
        · rintro ⟨⟩
        · split
          · rename_i hconflict
            exact ihconflict e hallows hconflict
          · rename_i hconflict
            exact ihtransient e hallows hconflict
      · rintro ⟨⟩

end Script

namespace Engine

variable {e : Engine}

theorem dated_visitScript (hin : e.InCalendar) (late : Nat → Bool) (pass : Pass) (tally : Tally) (entity : EntityRef) :
    (e.visitScript late pass tally entity).Dated := by
  unfold visitScript attemptScript
  split
  · trivial
  · have hwork := Script.dated_repeated (dated_work hin pass entity) e.config.retry (fun n => late (n + 1)) 0 0
    refine Script.dated_bind
      (Script.dated_recover (Script.dated_bind hwork fun _ => trivial) fun _ => trivial) fun result => ?_
    cases result <;> trivial

theorem dated_listing (target : String) (c : StoreCall) : (listing target c).Dated :=
  Script.dated_recover (Script.dated_ask c) fun _ h => nomatch h

theorem dated_passScript (hin : e.InCalendar) (clock : Clock) (crew : Crew) (wanted : Bool) (pass : Pass)
    (add : RunSummary → Tally → RunSummary) (summary : RunSummary) :
    (e.passScript clock crew wanted pass add summary).Dated := by
  unfold passScript
  split
  · refine Script.dated_bind ?_ fun targets => Script.dated_bind ?_ fun _ => trivial
    · cases pass <;> exact Script.dated_bind (dated_listing _ _) fun _ => Script.dated_pure _
    · unfold tourScript
      split
      · exact Script.dated_foldlM (fun tally (target : EntityRef × Nat) => dated_visitScript hin _ pass tally target.1) _ _
      · exact Script.dated_foldlM
          (fun _ _ => Script.dated_bind (dated_visitScript hin _ pass {} _) fun _ => Script.dated_pure _) _ _
  · trivial

theorem dated_dispatchScript (hin : e.InCalendar) (wanted : Bool) (sink : Sink) (summary : RunSummary) :
    (e.dispatchScript wanted sink summary).Dated := by
  unfold dispatchScript
  split
  · refine Script.dated_bind (Script.dated_bind (dated_listing _ _) fun alerts => ?_) fun _ => trivial
    have hsome : (dueNotifications? alerts e.now e.config.alerts.lookbackHours).isSome = true := by
      rw [dueNotifications?, Option.isSome_map]
      exact hin.cutoff
    split
    · rename_i hnone
      rw [hnone] at hsome
      cases hsome
    · trivial
  · trivial

theorem dated_runScript (hin : e.InCalendar) {clock : Clock} (hreachable : e.config.run.isReachable clock = true)
    (crew : Crew) (sink : Sink) (options : RunOptions) : (e.runScript clock crew sink options).Dated := by
  unfold runScript
  rw [if_pos hreachable]
  refine Script.dated_bind (dated_passScript hin clock crew _ _ _ _) fun summary => ?_
  refine Script.dated_bind (dated_passScript hin clock crew _ _ _ _) fun summary => ?_
  refine Script.dated_bind (dated_passScript hin clock crew _ _ _ _) fun summary => ?_
  exact Script.dated_bind (dated_dispatchScript hin _ sink summary) fun _ => trivial

/-- A time that a clock can count up to, one that has counted less can count up to as well. -/
theorem isReachable_of_counted_le {c : RunConfig} {clock clock' : Clock} (hle : clock'.counted ≤ clock.counted)
    (hreachable : c.isReachable clock = true) : c.isReachable clock' = true := by
  unfold RunConfig.isReachable at hreachable ⊢
  cases hseconds : c.timeoutSeconds with
  | none => rfl
  | some seconds =>
      rw [hseconds] at hreachable
      have hlt := of_decide_eq_true hreachable
      exact decide_eq_true (by omega)

/-- No run and no reassessment leaves the calendar, whatever the store and its faults are, and whoever visits the targets
of the run; its clock has been set going a second before it at the earliest. -/
structure Completes (e : Engine) : Prop where
  run : ∀ clock crew sink options w w', clock.counted ≤ Clock.still.counted →
    e.runTimed clock crew sink options w ≠ .error .calendar w'
  reassess : ∀ entity (f : FaultyStore), ((e.reassess entity).run f).1 ≠ .error .calendar

theorem InCalendar.completes (hin : e.InCalendar) : e.Completes where
  run clock crew sink options w w' hcounted hrun := by
    have hdated := dated_runScript hin (isReachable_of_counted_le hcounted hin.deadline) crew sink options
    have hends : (e.runTimed clock crew sink options).ends w = .error .calendar w'.backend :=
      Running.ends_eq_error_iff.2 ⟨w', hrun, rfl⟩
    rw [run_plays clock crew sink options w, Script.onStore] at hends
    split at hends
    · cases hends
    · rename_i cause g hscript
      cases hends
      exact hdated.run_ne w.backend (congrArg Prod.fst hscript)
  reassess entity f := (dated_reassess hin entity).run_ne f

/-! ## Where the calendar ends -/

/-- The first supplier has no record yet, so its first assessment needs the window and a day for the next one. -/
theorem first_assessment_stops
    (hout : windowStart? e.today e.config.scoring.historyWindowDays = none ∨
      e.today.addDays? e.config.alerts.nextAssessmentIntervalDays.toNat = none) :
    ((e.reassess (.supplier ⟨1⟩)).run (.plain Store.oneSource)).1 = .error .calendar := by
  obtain ⟨history, hhistory⟩ : ∃ history, (Script.ask (.supplierHistory ⟨1⟩)).run (.plain Store.oneSource) =
      (.ok history, .plain Store.oneSource) := ⟨_, rfl⟩
  obtain ⟨record, g, hrecord, hfresh⟩ : ∃ record g,
      (Script.ask (.supplierRisk ⟨1⟩ e.config.alerts.defaultAlertThreshold)).run (.plain Store.oneSource) =
        (.ok record, g) ∧ record.nextAssessment = none := ⟨_, _, rfl, rfl⟩
  have hsave : (e.saveSupplierAssessment history record).run g = (.error .calendar, g) := by
    -- The window is looked up first, so the next day is asked for only where there is one.
    unfold saveSupplierAssessment windowStart
    cases hwindow : windowStart? e.today e.config.scoring.historyWindowDays with
    | none => rfl
    | some start =>
        have hnext : e.today.addDays? e.config.alerts.nextAssessmentIntervalDays.toNat = none :=
          hout.resolve_left (by simp [hwindow])
        have hassess (a : SupplierAssessment) :
            record.assess? a e.today e.config.alerts.nextAssessmentIntervalDays = none := by
          simp only [SupplierRisk.assess?, hfresh, SupplierRisk.scheduled?, hnext, Option.map_none]
        rw [Script.run_bind_of_ok (x := Script.inCalendar (some start)) rfl]
        simp only [hassess]
        rfl
  unfold reassess assessSupplier
  rw [Script.run_bind_of_ok hhistory, Script.run_bind_of_ok hrecord, Script.run_bind_of_error hsave]

/-- A run that does nothing but send alerts out. -/
def dispatchOnly : RunOptions := { suppliersOnly := true, partsOnly := true, dispatchAlerts := true }

theorem dispatch_stops (hreachable : e.config.run.isReachable .still = true)
    (hout : e.now.subHours? e.config.alerts.lookbackHours.toNat = none) (w : World) :
    ∃ w', e.run .accepting dispatchOnly w = .error .calendar w' := by
  have hscript : (e.runScript .still .caller .accepting dispatchOnly).run w.backend = (.error .calendar, w.backend) := by
    unfold runScript
    rw [if_pos hreachable]
    simp only [dispatchOnly, passScript, dispatchScript, reportScript, dueNotifications?, hout]
    rfl
  have hends := run_plays (e := e) .still .caller .accepting dispatchOnly w
  rw [Script.onStore, hscript] at hends
  exact (Running.ends_eq_error_iff.1 hends).imp fun _ h => h.1

theorem Completes.inCalendar (hcompletes : e.Completes) : e.InCalendar := by
  have hfirst := hcompletes.reassess (.supplier ⟨1⟩) (.plain Store.oneSource)
  have hreachable : e.config.run.isReachable .still = true := by
    by_contra hnot
    -- A run sets its deadline before it looks at the store, so any store will do.
    have hrun : e.run .accepting {} { backend := .plain .empty } = .error .calendar { backend := .plain .empty } := by
      unfold Engine.run runTimed
      rw [if_neg hnot]
      rfl
    exact hcompletes.run _ _ _ _ _ _ (Nat.le_refl _) hrun
  exact {
    window := Option.isSome_iff_ne_none.2 fun hnone => hfirst (first_assessment_stops (.inl hnone))
    nextAssessment := Option.isSome_iff_ne_none.2 fun hnone => hfirst (first_assessment_stops (.inr hnone))
    cutoff := Option.isSome_iff_ne_none.2 fun hnone => by
      obtain ⟨w', hrun⟩ := dispatch_stops hreachable hnone { backend := .plain .empty }
      exact hcompletes.run _ _ _ _ _ _ (Nat.le_refl _) hrun
    deadline := hreachable }

/-- All runs and reassessments of an engine complete exactly if everything that it reckons with is in the calendar. -/
theorem completes_iff_inCalendar (e : Engine) : e.Completes ↔ e.InCalendar :=
  ⟨Completes.inCalendar, InCalendar.completes⟩

end Engine

/-! ## Accepted configurations -/

/-- Settings that keep an engine in the calendar from year 1 to year 9999. -/
structure Config.WithinCalendar (c : Config) : Prop where
  window : c.scoring.historyWindowDays.toNat ≤ 95746130
  nextAssessment : c.alerts.nextAssessmentIntervalDays.toNat ≤ 92093340
  cutoff : c.alerts.lookbackHours.toNat ≤ 2297907120
  timeLimit : c.run.isReachable .still = true

namespace Engine

variable {e : Engine} {config : Config} {now : Instant}

theorem ofConfig_eq_ok_iff :
    ofConfig config now = .ok e ↔
      config.check = .ok () ∧
        ∃ weights, config.scoring.weights.forAssessment = .ok weights ∧ e = ⟨config, weights, now⟩ := by
  unfold ofConfig
  rw [bind_eq_ok_iff]
  simp only [bind_eq_ok_iff, Except.ok.injEq]
  constructor
  · rintro ⟨_, hcheck, weights, hweights, rfl⟩
    exact ⟨hcheck, weights, hweights, rfl⟩
  · rintro ⟨hcheck, weights, hweights, rfl⟩
    exact ⟨(), hcheck, weights, hweights, rfl⟩

theorem inCalendar_of_within (hfirst : 1 ≤ e.today.civil.year) (hlast : e.today.civil.year ≤ 9999)
    (hwithin : e.config.WithinCalendar) : e.InCalendar := by
  obtain ⟨hlow, hhigh⟩ := Civil.number_of_year hfirst hlast
  obtain ⟨hwindow, hnext, hcutoff, hlimit⟩ := hwithin
  have hday : e.today.number = e.now.seconds / 86400 := rfl
  exact {
    window := Date.isSome_ofNumber?_iff.2 (by omega)
    nextAssessment := Date.isSome_ofNumber?_iff.2 (by omega)
    cutoff := Instant.isSome_subHours? (by omega)
    deadline := hlimit }

/-- The first and the last of these days put the settings to the test. -/
theorem within_of_inCalendar {weights : Weights} (hfirst : InCalendar ⟨config, weights, .midnight .firstDay⟩)
    (hlast : InCalendar ⟨config, weights, .midnight .lastDay⟩) : config.WithinCalendar := by
  have hwindow : -96465292 ≤ (-719162 : Int) - config.scoring.historyWindowDays.toNat :=
    (Date.isSome_ofNumber?_iff.1 hfirst.window).1
  have hnext : (2932896 : Int) + config.alerts.nextAssessmentIntervalDays.toNat ≤ 95026236 :=
    (Date.isSome_ofNumber?_iff.1 hlast.nextAssessment).2
  have hcutoff : -96465292 * 86400 ≤ (-719162 : Int) * 86400 - config.alerts.lookbackHours.toNat * 3600 :=
    Instant.of_subHours?_midnight hfirst.cutoff
  exact ⟨by omega, by omega, by omega, hfirst.deadline⟩

/-- **Which accepted configurations stay in the calendar.**  Let an engine accept a configuration.  At all times from
year 1 to year 9999 all runs and reassessments complete, over all stores and with all faults, exactly if the settings
are within four bounds; and so it is with the days, the instant and the deadline that the engine reckons with.  The
check of the configuration knows none of these bounds. -/
theorem accepted_settings_complete_iff (haccepted : ∃ now e, ofConfig config now = .ok e) :
    ((∀ now e, 1 ≤ now.date.civil.year → now.date.civil.year ≤ 9999 → ofConfig config now = .ok e → e.Completes) ↔
      config.WithinCalendar) ∧
    ((∀ now e, 1 ≤ now.date.civil.year → now.date.civil.year ≤ 9999 → ofConfig config now = .ok e → e.InCalendar) ↔
      config.WithinCalendar) := by
  have hinCalendar : (∀ now e, 1 ≤ now.date.civil.year → now.date.civil.year ≤ 9999 → ofConfig config now = .ok e →
      e.InCalendar) ↔ config.WithinCalendar := by
    constructor
    · intro hall
      obtain ⟨now, e, hof⟩ := haccepted
      obtain ⟨hcheck, weights, hweights, -⟩ := ofConfig_eq_ok_iff.1 hof
      -- Acceptance does not depend on the clock, so the same settings can be tried on the first and the last day.
      have hat (now : Instant) : ofConfig config now = .ok ⟨config, weights, now⟩ :=
        ofConfig_eq_ok_iff.2 ⟨hcheck, weights, hweights, rfl⟩
      exact within_of_inCalendar (hall _ _ (by decide) (by decide) (hat (.midnight .firstDay)))
        (hall _ _ (by decide) (by decide) (hat (.midnight .lastDay)))
    · intro hwithin now e hfirst hlast hof
      obtain ⟨-, weights, -, rfl⟩ := ofConfig_eq_ok_iff.1 hof
      exact inCalendar_of_within hfirst hlast hwithin
  refine ⟨?_, hinCalendar⟩
  simp only [completes_iff_inCalendar]
  exact hinCalendar

/-- The standard settings are accepted and stay in the calendar. -/
theorem standard_settings_complete :
    ∃ e, ofConfig {} (.midnight Store.sampleDay) = .ok e ∧ e.Completes := by
  obtain ⟨e, haccepted⟩ : ∃ e, ofConfig {} (.midnight Store.sampleDay) = .ok e := by
    have hok : (ofConfig {} (.midnight Store.sampleDay)).toBool = true := by decide +kernel
    cases hof : ofConfig {} (.midnight Store.sampleDay) with
    | ok e => exact ⟨e, rfl⟩
    | error error =>
        rw [hof] at hok
        cases hok
  have hwithin : ({} : Config).WithinCalendar := ⟨by decide, by decide, by decide, by decide⟩
  have hcompletes := (accepted_settings_complete_iff ⟨_, e, haccepted⟩).1.2 hwithin
  exact ⟨e, haccepted, hcompletes _ e (by decide) (by decide) haccepted⟩

/-- A window of more days than the calendar has is accepted, and the first visit of a run leaves the calendar. -/
theorem accepted_window_leaves_calendar :
    let config := { scoring := { historyWindowDays := 4294967295 } : Config }
    let now := Instant.midnight Store.sampleDay
    1 ≤ now.date.civil.year ∧ now.date.civil.year ≤ 9999 ∧
    (Config.ofText "[scoring]\nhistory_window_days = 4294967295").toOption.map (·.scoring.historyWindowDays) =
      some config.scoring.historyWindowDays ∧
    ∃ e w', ofConfig config now = .ok e ∧
      e.run .accepting {} { backend := .plain Store.oneSource } = .error .calendar w' := by
  intro config now
  refine ⟨by decide, by decide, by decide +kernel, ?_⟩
  have hstops : (match ofConfig config now with
      | .ok e => match e.run .accepting {} { backend := .plain Store.oneSource } with
        | .error .calendar _ => true
        | _ => false
      | .error _ => false) = true := by decide +kernel
  split at hstops
  · rename_i e hof
    split at hstops
    · rename_i w' hrun
      exact ⟨e, w', hof, hrun⟩
    · cases hstops
  · cases hstops

end Engine

end SupplyRisk
