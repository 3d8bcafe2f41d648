import SupplyRisk.Proofs.Assurance
import SupplyRisk.Proofs.Engine.Calls

/-!
# Calls that keep to a discipline

What engines are asked for is put together from a few kinds of work.  A discipline that suits an engine allows each of
them (`Discipline.Suits`); then it allows whatever the engine can be asked for (`Discipline.Suits.script`), and any
number of calls that are under way at the same time (`EngineCall.disciplined_pool`).

Alerts bear no version, so a script that carries one has to know of it what the other scripts leave true
(`Discipline.Handles`).
-/

namespace SupplyRisk

/-! ## Alerts in hand -/

/-- The two alerts are one alert at different times. -/
structure Alert.SameOrigin (a b : Alert) : Prop where
  id : b.id = a.id
  entity : b.entity = a.entity
  alertType : b.alertType = a.alertType
  category : b.category = a.category
  openedAt : b.openedAt = a.openedAt

namespace Alert.SameOrigin

variable {a b c : Alert}

theorem refl (a : Alert) : a.SameOrigin a := ⟨rfl, rfl, rfl, rfl, rfl⟩

theorem trans (hab : a.SameOrigin b) (hbc : b.SameOrigin c) : a.SameOrigin c :=
  ⟨hbc.id.trans hab.id, hbc.entity.trans hab.entity, hbc.alertType.trans hab.alertType,
    hbc.category.trans hab.category, hbc.openedAt.trans hab.openedAt⟩

end Alert.SameOrigin

/-! ## What answers tell -/

namespace Script

variable {f f' : FaultyStore}

theorem openAlert_of_run_ask {entity : EntityRef} {current : Option Alert}
    (hrun : (ask (.openAlert entity)).run f = (.ok current, f')) :
    f.store.openAlert entity = current ∧ f.store = f'.store := by
  have hperform : Except.ok (f.store.openAlert entity, f.store) = Except.ok (current, f'.store) :=
    FaultyStore.perform_eq_ok (perform_of_run_ask hrun)
  exact Prod.mk.inj (Except.ok.inj hperform)

theorem insertAlert_of_run_ask {draft : AlertDraft} {a : Alert}
    (hrun : (ask (.insertAlert draft)).run f = (.ok a, f')) :
    Alert.ofDraft ⟨Store.nextNumber f.store.alerts⟩ draft = a ∧
      { f.store with alerts := f.store.alerts.insert a } = f'.store := by
  have hperform : f.store.insertAlert draft = .ok (a, f'.store) :=
    FaultyStore.perform_eq_ok (perform_of_run_ask hrun)
  unfold Store.insertAlert at hperform
  split at hperform
  · cases hperform
  · obtain ⟨rfl, hstore⟩ := Prod.mk.inj (Except.ok.inj hperform)
    exact ⟨rfl, hstore⟩

theorem insertEvent_of_run_ask {draft : EventDraft} {event : RiskEvent}
    (hrun : (ask (.insertEvent draft)).run f = (.ok event, f')) :
    RiskEvent.ofDraft ⟨Store.nextNumber f.store.events⟩ draft = event ∧
      { f.store with events := f.store.events.insert event } = f'.store := by
  have hperform : Except.ok (f.store.insertEvent draft) = Except.ok (event, f'.store) :=
    FaultyStore.perform_eq_ok (perform_of_run_ask hrun)
  obtain ⟨rfl, hstore⟩ := Prod.mk.inj (Except.ok.inj hperform)
  exact ⟨rfl, hstore⟩

theorem alert_of_run_ask {id : AlertId} {a : Alert} (hrun : (ask (.alert id)).run f = (.ok a, f')) :
    a ∈ f.store.alerts.rows ∧ f.store = f'.store := by
  obtain ⟨found, hread, hanswer⟩ := map_eq_ok_iff.1 (FaultyStore.perform_eq_ok (perform_of_run_ask hrun))
  obtain ⟨rfl, hstore⟩ := Prod.mk.inj hanswer
  unfold Store.alert at hread
  split at hread
  · rename_i stored hfind
    cases hread
    exact ⟨(Roster.find?_eq_some_iff.1 hfind).1, hstore⟩
  · cases hread

theorem recommendation_of_run_ask {id : RecommendationId} {r : Recommendation}
    (hrun : (ask (.recommendation id)).run f = (.ok r, f')) :
    r ∈ f.store.recommendations.rows ∧ f.store = f'.store := by
  obtain ⟨found, hread, hanswer⟩ := map_eq_ok_iff.1 (FaultyStore.perform_eq_ok (perform_of_run_ask hrun))
  obtain ⟨rfl, hstore⟩ := Prod.mk.inj hanswer
  unfold Store.recommendation at hread
  split at hread
  · rename_i stored hfind
    cases hread
    exact ⟨(Roster.find?_eq_some_iff.1 hfind).1, hstore⟩
  · cases hread

end Script

/-! ## Disciplines for alerts in hand -/

/-- A script of a place may write the alerts of an entity that are `Fit`, which those are that it finds or opens, and
log the event that the draft is about. -/
structure Discipline.Handles (D : Discipline) (place : Nat) (entity : EntityRef) (draft : EventDraft)
    (Fit : Alert → FaultyStore → Prop) : Prop where
  stays : ∀ a other g h, D.Step other g h → Fit a g → Fit a h
  same : ∀ a b g, a.SameOrigin b → b.event = a.event → Fit a g → Fit b g
  reads : ∀ g, D.Holds g → D.Allows place (.openAlert entity) g
  found : ∀ a g h, D.Holds g → (Script.ask (.openAlert entity)).run g = (.ok (some a), h) → Fit a h
  opens : ∀ d g, d.entity = entity → D.Holds g → D.Allows place (.insertAlert d) g
  opened : ∀ d a g h, d.entity = entity → D.Holds g → (Script.ask (.insertAlert d)).run g = (.ok a, h) → Fit a h
  writes : ∀ a g, D.Holds g → Fit a g → D.Allows place (.updateAlert a) g
  logs : ∀ g, D.Holds g → D.Allows place (.insertEvent draft) g
  logged : ∀ event a g h, D.Holds g → (Script.ask (.insertEvent draft)).run g = (.ok event, h) → Fit a g →
    Fit (a.recordEvent (some event.id)) h

namespace Discipline.Handles

open Script

variable {D : Discipline} {place : Nat} {draft : EventDraft} {Fit : Alert → FaultyStore → Prop} {f : FaultyStore}

section

variable {entity : EntityRef} (h : D.Handles place entity draft Fit)
include h

theorem later {a : Alert} {g : FaultyStore} (hleads : D.Leads f g) (hfit : Fit a f) : Fit a g :=
  hleads.keeps (h.stays a) hfit

theorem find (hf : D.Holds f) :
    (ask (.openAlert entity)).Assures D place (fun current g => ∀ a, current = some a → Fit a g) f := by
  refine assures_ask (c := .openAlert entity) (fun g hg => h.reads g (hg.holds hf))
    (fun g current g' hg hrun a ha => ?_) fun current other g g' hstep hfit a ha => h.stays a other g g' hstep (hfit a ha)
  subst ha
  exact h.found a g g' (hg.holds hf) hrun

/-- An alert in hand may be written at any time. -/
theorem update {a : Alert} (hf : D.Holds f) (hfit : Fit a f) :
    (ask (.updateAlert a)).Assures D place (fun _ g => Fit a g) f :=
  assures_ask (c := .updateAlert a) (fun g hg => h.writes a g (hg.holds hf) (h.later hg hfit))
    (fun g _ g' hg hrun => by
      have hmade := (h.writes a g (hg.holds hf) (h.later hg hfit)).leads (run_ask_eq_ok_iff.1 hrun).1
      rw [perform_of_run_ask hrun] at hmade
      exact h.later (hg.trans hmade) hfit)
    fun _ other g g' hstep => h.stays a other g g' hstep

end

section

variable {c : AlertContext} (h : D.Handles place c.entity draft Fit)
include h

theorem apply {current : Option Alert} (hf : D.Holds f) (hcurrent : ∀ a, current = some a → Fit a f) (now : Instant) :
    (c.apply current now).Assures D place (fun o g => ∀ a, o.alert = some a → Fit a g) f := by
  have hupdate {a b : Alert} (ha : current = some a) (hsame : a.SameOrigin b) (hevent : b.event = a.event) :
      (ask (.updateAlert b)).Assures D place (fun _ g => ∀ x, some b = some x → Fit x g) f :=
    (h.update hf (h.same a b f hsame hevent (hcurrent a ha))).mono fun _ g _ hb x hx => by
      cases hx
      exact hb
  have hdone {o : AlertOutcome} {g : FaultyStore} (ho : ∀ a, o.alert = some a → Fit a g) :
      (pure o : Script AlertOutcome).Assures D place (fun o g => ∀ a, o.alert = some a → Fit a g) g :=
    assures_pure fun g' hg' a ha => h.later hg' (ho a ha)
  unfold AlertContext.apply
  dsimp only
  split
  · rename_i level hplan
    have hinsert : (ask (.insertAlert (c.draft level now))).Assures D place (fun a g => Fit a g) f :=
      assures_ask (c := .insertAlert (c.draft level now)) (fun g hg => h.opens _ g rfl (hg.holds hf))
        (fun g a g' hg hrun => h.opened _ a g g' rfl (hg.holds hf) hrun) h.stays
    refine hinsert.bind fun a g _ ha => hdone fun x hx => ?_
    cases hx
    exact ha
  · rename_i level alert hplan
    have hescalated := hupdate (b := c.escalated alert level now) rfl ⟨rfl, rfl, rfl, rfl, rfl⟩ rfl
    exact hescalated.bind fun _ g _ hb => hdone hb
  · rename_i alert hplan
    have hresolved := hupdate (b := alert.resolve now none) rfl ⟨rfl, rfl, rfl, rfl, rfl⟩ rfl
    exact hresolved.bind fun _ g _ hb => hdone hb
  · exact hdone hcurrent

theorem reconcile (hf : D.Holds f) (now : Instant) :
    (c.reconcile now).Assures D place (fun o g => ∀ a, o.alert = some a → Fit a g) f := by
  have hround {g : FaultyStore} (hg : D.Holds g) :
      (ask (.openAlert c.entity) >>= fun current => c.apply current now).Assures D place
        (fun o g => ∀ a, o.alert = some a → Fit a g) g :=
    (h.find hg).bind fun current g' hg' hcurrent => h.apply (hg'.holds hg) hcurrent now
  refine (h.find hf).bind fun current g hg hcurrent => ?_
  refine (h.apply (hg.holds hf) hcurrent now).recover fun e g' hg' => ?_
  -- Somebody else has opened the alert: one more round with what is open now.
  cases e with
  | uniqueViolation detail => exact hround ((hg.trans hg').holds hf)
  | _ => exact assures_stop _

/-- The alert of an entity is reconciled, and then its event is logged. -/
theorem notice {β : Type} (hf : D.Holds f) (now : Instant) (triggered : Bool) (k : Bool → β) :
    (c.reconcile now >>= fun o => logPendingEvent o.alert triggered draft >>= fun created =>
      pure (k created)).Assures D place (fun _ _ => True) f := by
  have hdone {γ : Type} {b : γ} {g : FaultyStore} : (pure b : Script γ).Assures D place (fun _ _ => True) g :=
    assures_pure fun _ _ => trivial
  refine (h.reconcile hf now).bind fun o g hg hfit => ?_
  refine Assures.bind (Q := fun _ _ => True) ?_ fun created _ _ _ => hdone
  have hg := hg.holds hf
  unfold logPendingEvent
  split
  · exact hdone
  · rename_i a halert
    have hfit : Fit a g := hfit a halert
    split
    · split
      · have hinsert : (ask (.insertEvent draft)).Assures D place (fun event g => Fit (a.recordEvent (some event.id)) g) g :=
          assures_ask (c := .insertEvent draft) (fun g' hg' => h.logs g' (hg'.holds hg))
            (fun g' event g'' hg' hrun => h.logged event a g' g'' (hg'.holds hg) hrun (h.later hg' hfit))
            fun event => h.stays _
        refine hinsert.bind fun event g' hg' hrecorded => ?_
        exact (h.update (hg'.holds hg) hrecorded).bind fun _ _ _ _ => hdone
      · have hrecorded : Fit (a.recordEvent none) g := h.same a _ g ⟨rfl, rfl, rfl, rfl, rfl⟩ rfl hfit
        exact (h.update hg hrecorded).bind fun _ _ _ _ => hdone
    · exact hdone

end

end Discipline.Handles

/-! ## Whatever an engine is asked for -/

/-- The work of an engine keeps to the discipline in a place: attempts at entities, listings, reviews and rows of an
import. -/
structure Discipline.Suits (D : Discipline) (place : Nat) (e : Engine) : Prop where
  work : ∀ pass entity, (e.work pass entity).Obeys D place
  lists : ∀ c, Engine.Lists c → ∀ f, D.Holds f → D.Allows place c f
  resolveAlert : ∀ id resolver, (e.resolveAlert id resolver).Obeys D place
  reviewRecommendation : ∀ id notes, (e.reviewRecommendation id notes).Obeys D place
  resolveEvent : ∀ id notes, (e.resolveEvent id notes).Obeys D place
  row : ∀ row : ThresholdRecord, row.apply.Obeys D place

theorem Script.obeys_repeated {α : Type} {D : Discipline} {place : Nat} {x : Script α} (hx : x.Obeys D place)
    (p : RetryPolicy) (late : Nat → Bool) (conflicts transients : Nat) :
    (repeated p late x conflicts transients).Obeys D place := by
  induction conflicts, transients using repeated.induct p with
  | case1 conflicts transients ihconflict ihtransient =>
      rw [repeated]
      refine hx.recover fun e => ?_
      split
      · rename_i hallows
        split
        · exact obeys_stop _
        · split
          · rename_i hconflict
            exact ihconflict e hallows hconflict
          · rename_i hconflict
            exact ihtransient e hallows hconflict
      · exact obeys_stop _

namespace Discipline.Suits

open Script

variable {D : Discipline} {place : Nat} {e : Engine} (h : D.Suits place e)
include h

theorem reassess (entity : EntityRef) : (e.reassess entity).Obeys D place := h.work .suppliers entity

theorem visit (late : Nat → Bool) (pass : Pass) (tally : Tally) (entity : EntityRef) :
    (e.visitScript late pass tally entity).Obeys D place := by
  unfold Engine.visitScript
  split
  · exact obeys_pure _
  · refine Obeys.bind (Obeys.recover ?_ fun _ => obeys_pure _) fun result => ?_
    · exact (obeys_repeated (h.work pass entity) _ _ 0 0).bind fun _ => obeys_pure _
    · cases result <;> exact obeys_pure _

theorem listing (target : String) {c : StoreCall} (hlists : Engine.Lists c) :
    (Engine.listing target c).Obeys D place := by
  have honly : (ask c).Only Engine.Lists := only_ask hlists
  exact (honly.obeys h.lists).recover fun _ => obeys_stop _

theorem targets (pass : Pass) : (Engine.targetsScript pass).Obeys D place := by
  cases pass with
  | suppliers => exact (h.listing _ (.inl rfl)).bind fun _ => obeys_pure _
  | parts => exact (h.listing _ (.inr (.inl rfl))).bind fun _ => obeys_pure _
  | recommendations => exact (h.listing _ (.inr (.inr (.inl rfl)))).bind fun _ => obeys_pure _

theorem tour (clock : Clock) (crew : Crew) (pass : Pass) (targets : List EntityRef) :
    (e.tourScript clock crew pass targets).Obeys D place := by
  unfold Engine.tourScript
  split
  · exact obeys_foldlM (fun tally (target : EntityRef × Nat) => h.visit _ pass tally target.1) _ _
  · exact obeys_foldlM (fun tally t => (h.visit _ pass {} _).bind fun _ => obeys_pure _) _ _

theorem pass (clock : Clock) (crew : Crew) (wanted : Bool) (pass : Pass) (add : RunSummary → Tally → RunSummary)
    (summary : RunSummary) : (e.passScript clock crew wanted pass add summary).Obeys D place := by
  cases wanted with
  | false => exact obeys_pure _
  | true => exact (h.targets pass).bind fun targets => (h.tour clock crew pass targets).bind fun _ => obeys_pure _

theorem dispatch (wanted : Bool) (sink : Sink) (summary : RunSummary) :
    (e.dispatchScript wanted sink summary).Obeys D place := by
  cases wanted with
  | false => exact obeys_pure _
  | true =>
      refine Obeys.bind ((h.listing _ (.inr (.inr (.inr rfl)))).bind fun alerts => ?_) fun _ => obeys_pure _
      split
      · exact obeys_stop _
      · exact obeys_pure _

theorem run (clock : Clock) (crew : Crew) (sink : Sink) (options : RunOptions) :
    (e.runScript clock crew sink options).Obeys D place := by
  unfold Engine.runScript
  split
  · refine (h.pass clock crew _ _ _ _).bind fun summary => ?_
    refine (h.pass clock crew _ _ _ _).bind fun summary => ?_
    refine (h.pass clock crew _ _ _ _).bind fun summary => ?_
    exact (h.dispatch _ sink summary).bind fun _ => obeys_pure _
  · exact obeys_stop _

theorem serve (channel : List (List EntityRef)) (r : ListenerReport) :
    (ChangeListener.serveScript e channel r).Obeys D place := by
  have hhandle (r : ListenerReport) (entity : EntityRef) : (ChangeListener.handleScript e r entity).Obeys D place :=
    Obeys.recover ((h.reassess entity).bind fun _ => obeys_pure _) fun _ => obeys_pure _
  induction channel generalizing r with
  | nil => exact obeys_pure r
  | cons batch channel ih =>
      cases batch with
      | nil => exact ih r
      | cons first others => exact (obeys_foldlM hhandle _ _).bind ih

theorem thresholds (report : ImportReport) (rows : List ThresholdRecord) :
    (applyThresholds report rows).Obeys D place := by
  induction rows generalizing report with
  | nil => exact obeys_pure report
  | cons row rows ih => exact (((h.row row).map _).recover fun _ => obeys_pure _).bind fun _ => ih _

/-- Whatever the engine is asked for keeps to the discipline. -/
theorem script (call : EngineCall) : (call.script e).Obeys D place := by
  cases call with
  | run clock crew sink options => exact (h.run clock crew sink options).map _
  | visit late pass entity => exact (h.visit late pass {} entity).map _
  | reassess entity => exact (h.reassess entity).map _
  | listen channel => exact (h.serve channel {}).map _
  | resolveAlert id resolver => exact (h.resolveAlert id resolver).map _
  | reviewRecommendation id notes => exact (h.reviewRecommendation id notes).map _
  | resolveEvent id notes => exact (h.resolveEvent id notes).map _
  | importThresholds rows => exact (h.thresholds {} rows).map _

end Discipline.Suits

/-- Calls of engines that a discipline suits keep to it at the same time. -/
theorem EngineCall.disciplined_pool {D : Discipline} {f : FaultyStore} {calls : List (Engine × EngineCall)}
    (hf : D.Holds f) (hsuits : ∀ place call, calls[place]? = some call → D.Suits place call.1) :
    (pool f calls).Disciplined D where
  holds := hf
  scripts place x hx := by
    obtain ⟨call, hcall, rfl⟩ : ∃ call, calls[place]? = some call ∧ call.2.script call.1 = x := by
      simpa [pool] using hx
    exact (hsuits place call hcall).script call.2 f hf

end SupplyRisk
