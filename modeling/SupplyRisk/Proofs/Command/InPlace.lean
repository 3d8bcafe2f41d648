import SupplyRisk.Command.Change
import SupplyRisk.Proofs.Engine.Alike
import SupplyRisk.Proofs.Engine.Retry

/-!
# Changes of a store in memory

`Change.inPlace` carries out a change on a store that stays in memory, which is left in some state also when the
change fails.  It is the change as it is applied to a loaded store (`apply_eq_inPlace`), and a change that fails leaves
the store in memory as it was (`inPlace_of_error`); only where a date leaves the calendar or a number its word, which
ends the program, some of its writes may have been made.
-/

namespace SupplyRisk

/-- A script on a store in memory: what it comes to and the store that it leaves. -/
def Store.playInPlace {α : Type} (s : Store) (script : Script α) (report : α → CommandReport) :
    Except CommandError CommandReport × Store :=
  (((script.run (.plain s)).1.mapError (.ofStop ·)).map report, (script.run (.plain s)).2.store)

namespace Change

/-- A change of a store in memory: what it comes to and the store that it leaves. -/
def inPlace (c : Config) (now : Instant) (workforce : Workforce) (change : Change) (s : Store) :
    Except CommandError CommandReport × Store :=
  match change with
  | assess request =>
      match engine (request.configure c) now with
      | .error e => (.error e, s)
      | .ok e =>
          match e.runTimed workforce.clock workforce.crew Sink.accepting request.options { backend := .plain s } with
          | .ok summary world => (.ok (.assessed summary request.format), world.backend.store)
          | .error cause world => (.error (.ofStop cause), world.backend.store)
  | importThresholds rows => s.playInPlace (applyThresholds {} rows) (.imported rows.length)
  | resolveAlert resolution =>
      match engine c now with
      | .error e => (.error e, s)
      | .ok e => s.playInPlace (e.resolveAlert resolution.alert resolution.resolver) .resolvedAlert
  | resolveEvent id notes =>
      match engine c now with
      | .error e => (.error e, s)
      | .ok e => s.playInPlace (e.resolveEvent id notes) .resolvedEvent
  | reviewRecommendation id notes =>
      match engine c now with
      | .error e => (.error e, s)
      | .ok e => s.playInPlace (e.reviewRecommendation id notes) .reviewed

end Change

theorem Store.play_eq_playInPlace {α : Type} (s : Store) (script : Script α) (report : α → CommandReport) :
    (s.play script).map (fun r => (report r.1, r.2)) =
      (s.playInPlace script report).1.map (fun r => (r, (s.playInPlace script report).2)) := by
  unfold Store.play Store.playInPlace
  rcases script.run (.plain s) with ⟨result, f⟩
  cases result <;> rfl

namespace Change

variable {c : Config} {now : Instant} {workforce : Workforce} {s : Store} {e : CommandError}

/-- A change applied to a loaded store is the change in place, if that succeeds. -/
theorem apply_eq_inPlace (c : Config) (now : Instant) (workforce : Workforce) (change : Change) (s : Store) :
    change.apply c now workforce s =
      (change.inPlace c now workforce s).1.map (fun report => (report, (change.inPlace c now workforce s).2)) := by
  cases change with
  | assess request =>
      simp only [apply, inPlace, runOver, bind, Except.bind, pure, Except.pure]
      cases engine (request.configure c) now with
      | error e => rfl
      | ok engine =>
          dsimp only
          cases engine.runTimed workforce.clock workforce.crew Sink.accepting request.options { backend := .plain s } <;>
            rfl
  | importThresholds rows => exact s.play_eq_playInPlace (applyThresholds {} rows) (.imported rows.length)
  | resolveAlert resolution =>
      simp only [apply, inPlace, bind, Except.bind]
      cases engine c now with
      | error e => rfl
      | ok engine =>
          exact s.play_eq_playInPlace (engine.resolveAlert resolution.alert resolution.resolver) .resolvedAlert
  | resolveEvent id notes =>
      simp only [apply, inPlace, bind, Except.bind]
      cases engine c now with
      | error e => rfl
      | ok engine => exact s.play_eq_playInPlace (engine.resolveEvent id notes) .resolvedEvent
  | reviewRecommendation id notes =>
      simp only [apply, inPlace, bind, Except.bind]
      cases engine c now with
      | error e => rfl
      | ok engine => exact s.play_eq_playInPlace (engine.reviewRecommendation id notes) .reviewed

end Change

/-! ## Failures -/

namespace Engine

/-- The store without faults is only itself alike. -/
def SamePlain (f g : FaultyStore) : Prop := f = g ∧ ∃ s, f = .plain s

theorem attemptsAlike_samePlain (e : Engine) (late : Nat → Bool) : e.AttemptsAlike SamePlain False late := by
  rintro pass entity f g ⟨rfl, hplain⟩
  refine .inr ⟨rfl, rfl, ?_⟩
  exact retryingUntil_keeps _ _ (I := fun f => ∃ s, f = .plain s)
    (fun f ⟨s, hf⟩ => ⟨_, hf ▸ Script.run_plain (e.work pass entity) s⟩) 0 0 f hplain

theorem listingsAlike_samePlain : ListingsAlike SamePlain where
  suppliers := by
    rintro f g ⟨rfl, s, rfl⟩
    exact ⟨_, _, _, _, rfl, rfl, rfl, rfl, s, rfl⟩
  parts := by
    rintro f g ⟨rfl, s, rfl⟩
    exact ⟨_, _, _, _, rfl, rfl, rfl, rfl, s, rfl⟩
  partRisks := by
    rintro f g ⟨rfl, s, rfl⟩
    exact ⟨_, _, _, _, rfl, rfl, rfl, rfl, s, rfl⟩
  alerts := by
    rintro f g ⟨rfl, s, rfl⟩
    exact ⟨_, _, _, _, rfl, rfl, rfl, rfl, s, rfl⟩

/-- A run over a store without faults can only fail at the end of the calendar or of the numbers. -/
theorem ends_of_run {e : Engine} {clock : Clock} {crew : Crew} {sink : Sink} {options : RunOptions} {s : Store}
    {cause : Halt} {w : World} (hrun : e.runTimed clock crew sink options { backend := .plain s } = .error cause w) :
    cause.Ends := by
  have hsame : World.Alike SamePlain { backend := .plain s } { backend := .plain s } := ⟨⟨rfl, s, rfl⟩, rfl, rfl⟩
  have hends := run_ends_alike e.attemptsAlike_samePlain listingsAlike_samePlain clock crew sink options hsame
  rw [hrun] at hends
  cases hends with
  | calendar halike => exact .calendar
  | word halike => exact .word

end Engine

theorem ThresholdRecord.dated_apply (r : ThresholdRecord) : r.apply.Dated := by
  unfold ThresholdRecord.apply
  split
  · split
    · exact fun h => nomatch h
    · refine Script.dated_bind (Script.dated_bind (Script.dated_ask _) fun record => ?_) fun _ => trivial
      exact Script.dated_bind (Script.dated_ofExcept _) fun changed => Script.dated_ask _
  · split
    · exact Script.dated_ask _
    · exact Script.dated_bind (Script.dated_ofExcept _) fun threshold => Script.dated_ask _

/-- One row is applied or reported, on the store that it left, or the import ends with it for want of a version. -/
theorem run_applyThresholds_cons (report : ImportReport) (row : ThresholdRecord) (rows : List ThresholdRecord)
    (f : FaultyStore) :
    (∃ result, (row.apply.run f).1 = result.mapError .failure ∧
        (applyThresholds report (row :: rows)).run f =
          (applyThresholds (report.add row result) rows).run (row.apply.run f).2) ∨
      ∃ g, row.apply.run f = (.error .word, g) ∧ (applyThresholds report (row :: rows)).run f = (.error .word, g) := by
  have hdated := row.dated_apply.run_ne f
  have hrow : (Except.ok <$> row.apply : Script (Except RiskError Unit)).run f =
      match row.apply.run f with
      | (.ok (), g) => (.ok (.ok ()), g)
      | (.error cause, g) => (.error cause, g) := by
    rw [map_eq_pure_bind, Script.run_bind]
    rcases row.apply.run f with ⟨result, g⟩
    cases result <;> rfl
  rw [applyThresholds, Script.run_bind, Script.run_recover, hrow]
  rcases happly : row.apply.run f with ⟨result, g⟩
  rw [happly] at hdated
  cases result with
  | ok a => exact .inl ⟨.ok a, rfl, rfl⟩
  | error cause =>
      cases cause with
      | failure e => exact .inl ⟨.error e, rfl, rfl⟩
      | calendar => exact absurd rfl hdated
      | word => exact .inr ⟨g, rfl, rfl⟩

/-- Rows are always applied to the end, as long as there are versions. -/
theorem run_applyThresholds_cases (report : ImportReport) (rows : List ThresholdRecord) (f : FaultyStore) :
    ∃ g, (∃ report', (applyThresholds report rows).run f = (.ok report', g)) ∨
      (applyThresholds report rows).run f = (.error .word, g) := by
  induction rows generalizing report f with
  | nil => exact ⟨f, .inl ⟨report, rfl⟩⟩
  | cons row rows ih =>
      rcases run_applyThresholds_cons report row rows f with ⟨result, -, hrun⟩ | ⟨g, -, hrun⟩
      · rw [hrun]
        exact ih _ _
      · exact ⟨g, .inr hrun⟩

/-! ## Scripts that write once -/

theorem FaultyStore.hasRoom_plain (s : Store) (c : StoreCall) :
    (plain s).hasRoom c = (s.hasNumberFor c || !((plain s).perform c).1.isOk) := by
  cases c <;> rfl

theorem FaultyStore.giveUp_plain (s : Store) (c : StoreCall) : (plain s).giveUp c = plain s := by
  cases c <;> rfl

/-- Without faults a call is answered or refused, or it is given up because there is no number for what it writes. -/
theorem Script.run_ask_plain (c : StoreCall) (s : Store) :
    (ask c).run (.plain s) =
      match s.perform c with
      | .ok (answer, s') => if s.hasNumberFor c then (.ok answer, .plain s') else (.error .word, .plain s)
      | .error e => (.error (.failure e), .plain s) := by
  have hperform := FaultyStore.perform_plain s c
  have hroom := FaultyStore.hasRoom_plain s c
  cases hcall : s.perform c with
  | error e =>
      rw [hcall] at hperform
      rw [hperform] at hroom
      rw [run_ask (hroom.trans (Bool.or_true _)), hperform]
  | ok result =>
      rw [hcall] at hperform
      rw [hperform] at hroom
      have hroom : (FaultyStore.plain s).hasRoom c = s.hasNumberFor c := hroom.trans (Bool.or_false _)
      dsimp only
      split
      · rename_i hnumber
        rw [run_ask (hroom.trans hnumber), hperform]
      · rename_i hnumber
        rw [run_ask_of_full (hroom ▸ hnumber), FaultyStore.giveUp_plain]

theorem Script.run_ask_of_perform {c : StoreCall} {s s' : Store} {answer : c.Answer} (hnumber : s.hasNumberFor c = true)
    (hcall : s.perform c = .ok (answer, s')) : (ask c).run (.plain s) = (.ok answer, .plain s') := by
  rw [run_ask_plain, hcall]
  exact if_pos hnumber

/-- A call that hands the store back as it got it. -/
theorem Script.snd_run_ask_of_read {c : StoreCall} {s : Store} {answer : Except RiskError c.Answer}
    (hread : s.perform c = answer.map (·, s)) : ((ask c).run (.plain s)).2 = .plain s := by
  rw [run_ask_plain, hread]
  cases answer with
  | error e => rfl
  | ok a =>
      simp only [Except.map]
      split <;> rfl

/-- When the script fails on a store without faults, that store is as it was. -/
def Script.FailsClean {α : Type} (x : Script α) (s : Store) : Prop :=
  ∀ cause, (x.run (.plain s)).1 = .error cause → (x.run (.plain s)).2 = .plain s

/-- A call that is refused or given up changes nothing, so a script that only calls once fails clean. -/
theorem Script.failsClean_ask {α : Type} {c : StoreCall} (answer : c.Answer → α)
    (s : Store) : Script.FailsClean (Script.ask c >>= fun a => pure (answer a)) s := by
  intro cause herror
  rw [run_bind, run_ask_plain] at herror ⊢
  cases hcall : s.perform c with
  | error e => rfl
  | ok result =>
      rw [hcall] at herror
      dsimp only at herror ⊢
      by_cases hnumber : s.hasNumberFor c = true
      · rw [if_pos hnumber] at herror
        cases herror
      · rw [if_neg hnumber]

/-- A script may read before it calls. -/
theorem Script.failsClean_read {α β : Type} {x : Script α} {g : α → Script β} {s : Store}
    (hread : (x.run (.plain s)).2 = .plain s) (hg : ∀ a, (g a).FailsClean s) : (x >>= g).FailsClean s := by
  intro cause herror
  rw [run_bind] at herror ⊢
  rcases hx : x.run (.plain s) with ⟨result, f⟩
  rw [hx] at hread herror
  obtain rfl : f = .plain s := hread
  cases result with
  | error cause' => rfl
  | ok a => exact hg a cause herror

theorem failsClean_resolveAlert (id : AlertId) (resolver : Option String) (now : Instant) (s : Store) :
    (resolveAlert id resolver now).FailsClean s := by
  refine Script.failsClean_read ?_ fun alert => ?_
  · exact Script.snd_run_ask_of_read (c := .alert id) rfl
  · split
    · exact Script.failsClean_ask (c := .updateAlert _) (fun _ => _) s
    · exact fun cause herror => by cases herror

theorem failsClean_reviewRecommendation (e : Engine) (id : RecommendationId) (notes : String) (s : Store) :
    (e.reviewRecommendation id notes).FailsClean s := by
  refine Script.failsClean_read ?_ fun record =>
    Script.failsClean_ask (c := .updateRecommendation _) (fun _ => _) s
  exact Script.snd_run_ask_of_read (c := .recommendation id) rfl

theorem failsClean_resolveEvent (e : Engine) (id : EventId) (notes : String) (s : Store) :
    (e.resolveEvent id notes).FailsClean s := by
  have hclean := Script.failsClean_ask (c := .resolveEvent id notes e.today) (fun event => event) s
  rwa [bind_pure] at hclean

theorem Store.snd_playInPlace_of_error {α : Type} {s : Store} {script : Script α} {report : α → CommandReport}
    {e : CommandError} (hclean : script.FailsClean s) (herror : (s.playInPlace script report).1 = .error e) :
    (s.playInPlace script report).2 = s := by
  unfold Store.playInPlace at herror ⊢
  cases hrun : (script.run (.plain s)).1 with
  | ok a =>
      rw [hrun] at herror
      cases herror
  | error cause =>
      dsimp only
      rw [hclean cause hrun]
      rfl

namespace Change

variable {c : Config} {now : Instant} {workforce : Workforce} {s : Store} {e : CommandError}

/-- A change that plays one script of an engine leaves the store as it was if there is no engine or the script fails
clean. -/
theorem inPlace_of_error_played {α : Type} {change : Change} (script : Engine → Script α) (report : α → CommandReport)
    (hengine : ∀ e', engine c now = .error e' → change.inPlace c now workforce s = (.error e', s))
    (hplay : ∀ e', engine c now = .ok e' → change.inPlace c now workforce s = s.playInPlace (script e') report)
    (hclean : ∀ e', (script e').FailsClean s) (herror : (change.inPlace c now workforce s).1 = .error e) :
    (change.inPlace c now workforce s).2 = s := by
  cases hmade : engine c now with
  | error e' => rw [hengine e' hmade]
  | ok e' =>
      rw [hplay e' hmade] at herror ⊢
      exact Store.snd_playInPlace_of_error (hclean e') herror

/-- **A failed change leaves the store as it was**, unless a date left the calendar or a number its word. -/
theorem inPlace_of_error {change : Change} (herror : (change.inPlace c now workforce s).1 = .error e)
    (hcalendar : e ≠ .calendar) : (change.inPlace c now workforce s).2 = s := by
  cases change with
  | assess request =>
      unfold inPlace at herror ⊢
      dsimp only at herror ⊢
      cases hengine : engine (request.configure c) now with
      | error e' => rfl
      | ok engine =>
          rw [hengine] at herror
          dsimp only at herror ⊢
          cases hrun : engine.runTimed workforce.clock workforce.crew Sink.accepting request.options
              { backend := .plain s } with
          | ok summary world =>
              rw [hrun] at herror
              cases herror
          | error cause world =>
              rw [hrun] at herror
              cases Engine.ends_of_run hrun with
              | calendar => exact absurd (Except.error.inj herror).symm hcalendar
              | word => exact absurd (Except.error.inj herror).symm hcalendar
  | importThresholds rows =>
      -- Rows that are refused are reported, so an import ends for want of a version only.
      obtain ⟨g, ⟨report, hrun⟩ | hrun⟩ := run_applyThresholds_cases {} rows (.plain s)
      · simp only [inPlace, Store.playInPlace, hrun] at herror
        cases herror
      · simp only [inPlace, Store.playInPlace, hrun] at herror
        exact absurd (Except.error.inj herror).symm hcalendar
  | resolveAlert resolution =>
      exact inPlace_of_error_played (·.resolveAlert resolution.alert resolution.resolver) .resolvedAlert
        (fun e' h => by simp only [inPlace, h]) (fun e' h => by simp only [inPlace, h])
        (fun e' => failsClean_resolveAlert _ _ _ s) herror
  | resolveEvent id notes =>
      exact inPlace_of_error_played (·.resolveEvent id notes) .resolvedEvent
        (fun e' h => by simp only [inPlace, h]) (fun e' h => by simp only [inPlace, h])
        (fun e' => failsClean_resolveEvent e' id notes s) herror
  | reviewRecommendation id notes =>
      exact inPlace_of_error_played (·.reviewRecommendation id notes) .reviewed
        (fun e' h => by simp only [inPlace, h]) (fun e' h => by simp only [inPlace, h])
        (fun e' => failsClean_reviewRecommendation e' id notes s) herror

end Change

end SupplyRisk
