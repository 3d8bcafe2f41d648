import SupplyRisk.Proofs.Engine.Conduct
import SupplyRisk.Proofs.Store.Continuity

/-!
# History is only added to

Calls of an engine never take anything back, whether they come one after the other or are under way at the same time
(`FaultyStore.engine_calls_only_add`).  For what single store calls can do that is known already; two of them write a
whole row over another one, though, and there it is the scripts that see to it: a script that carries an alert or a
recommendation writes it back with all that it was opened or suggested with, and the others can rely on that
(`Discipline.adding`).  An event is resolved as often as somebody asks for it, and not otherwise
(`ScriptPool.events_run`).
-/

namespace SupplyRisk

open Ranked (rank)

/-! ## What stays of a row -/

theorem Alert.SameOrigin.symm {a b : Alert} (h : a.SameOrigin b) : b.SameOrigin a :=
  ⟨h.id.symm, h.entity.symm, h.alertType.symm, h.category.symm, h.openedAt.symm⟩

/-- The two recommendations differ in their reviews at most. -/
def Recommendation.SameSuggestion (a b : Recommendation) : Prop :=
  { b with reviewed := a.reviewed, reviewDate := a.reviewDate, reviewNotes := a.reviewNotes } = a

namespace Recommendation.SameSuggestion

theorem refl (a : Recommendation) : a.SameSuggestion a := rfl

theorem symm {a b : Recommendation} (h : a.SameSuggestion b) : b.SameSuggestion a := by
  unfold SameSuggestion at h ⊢
  rw [← h]

theorem id {a b : Recommendation} (h : a.SameSuggestion b) : b.id = a.id := by
  rw [← h.symm]

theorem trans {a b c : Recommendation} (hab : a.SameSuggestion b) (hbc : b.SameSuggestion c) : a.SameSuggestion c := by
  unfold SameSuggestion at hab hbc ⊢
  rw [← hbc] at hab
  exact hab

end Recommendation.SameSuggestion

/-- What somebody asks for who resolves an event. -/
structure RiskEvent.Resolution where
  notes : String
  on : Date
deriving DecidableEq

/-- The event after resolutions: the first one gives the date, the last one the notes. -/
def RiskEvent.resolvedBy (event : RiskEvent) (resolutions : List Resolution) : RiskEvent :=
  { event with
    resolved := event.resolved || !resolutions.isEmpty
    resolutionDate := if event.resolved then event.resolutionDate else
      (resolutions.head?.map (·.on)).or event.resolutionDate
    resolutionNotes := (resolutions.getLast?.map (·.notes)).getD event.resolutionNotes }

theorem RiskEvent.resolvedBy_nil (event : RiskEvent) : event.resolvedBy [] = event := by
  simp [resolvedBy]

theorem RiskEvent.resolvedBy_cons (event : RiskEvent) (r : Resolution) (rs : List Resolution) :
    event.resolvedBy (r :: rs) = (event.resolve r.notes r.on).resolvedBy rs := by
  cases rs with
  | nil => simp [resolvedBy, resolve]
  | cons r' rs => simp [resolvedBy, resolve, List.getLast?_cons]

theorem RiskEvent.resolvedBy_append (event : RiskEvent) (rs rs' : List Resolution) :
    event.resolvedBy (rs ++ rs') = (event.resolvedBy rs).resolvedBy rs' := by
  induction rs generalizing event with
  | nil => rw [List.nil_append, resolvedBy_nil]
  | cons r rs ih => rw [List.cons_append, resolvedBy_cons, resolvedBy_cons, ih]

/-! ## Alerts and recommendations -/

namespace Store

/-- The store has the alert, as it is or was. -/
def RecallsAlert (s : Store) (a : Alert) : Prop := ∃ b ∈ s.alerts.rows, b.SameOrigin a

/-- The store has the recommendation, up to its review. -/
def RecallsRecommendation (s : Store) (r : Recommendation) : Prop := ∃ b ∈ s.recommendations.rows, b.SameSuggestion r

/-- Alerts keep what they were opened with, recommendations what was suggested, and new ones come behind them. -/
structure Adds (s t : Store) : Prop where
  alerts : s.alerts.Grows Alert.SameOrigin t.alerts
  recommendations : s.recommendations.Grows Recommendation.SameSuggestion t.recommendations

variable {s t u : Store} {a : Alert} {r : Recommendation} {c : StoreCall}

namespace Adds

theorem of_same (halerts : t.alerts = s.alerts) (hrecommendations : t.recommendations = s.recommendations) :
    s.Adds t where
  alerts := halerts ▸ .refl Alert.SameOrigin.refl _
  recommendations := hrecommendations ▸ .refl Recommendation.SameSuggestion.refl _

theorem refl (s : Store) : s.Adds s := of_same rfl rfl

theorem trans (hst : s.Adds t) (htu : t.Adds u) : s.Adds u where
  alerts := hst.alerts.trans (fun _ _ _ hab hbc => hab.trans hbc) htu.alerts
  recommendations := hst.recommendations.trans (fun _ _ _ hab hbc => hab.trans hbc) htu.recommendations

theorem recallsAlert (hst : s.Adds t) (ha : s.RecallsAlert a) : t.RecallsAlert a := by
  obtain ⟨b, hb, hsame⟩ := ha
  obtain ⟨b', hb', -, hkept⟩ := hst.alerts.kept b hb
  exact ⟨b', hb', hkept.symm.trans hsame⟩

theorem recallsRecommendation (hst : s.Adds t) (hr : s.RecallsRecommendation r) : t.RecallsRecommendation r := by
  obtain ⟨b, hb, hsame⟩ := hr
  obtain ⟨b', hb', -, hkept⟩ := hst.recommendations.kept b hb
  exact ⟨b', hb', hkept.symm.trans hsame⟩

end Adds

/-- Who writes only what the store has, adds to it. -/
theorem Effect.adds (heffect : s.Effect c t) (hnumber : s.hasNumberFor c = true)
    (halert : ∀ a, c = .updateAlert a → s.RecallsAlert a)
    (hrecommendation : ∀ r, c = .updateRecommendation r → s.RecallsRecommendation r) : s.Adds t := by
  cases heffect with
  | newAlert hnone =>
      exact { Adds.refl s with alerts := .insert_next Alert.SameOrigin.refl rfl (hasNext_iff.1 hnumber) }
  | alert hknown hrival =>
      obtain ⟨b, hb, hsame⟩ := halert _ rfl
      exact { Adds.refl s with
        alerts := .insert_over Alert.SameOrigin.refl hb (congrArg (fun i => i.value.toNat) hsame.id) hsame }
  | newRecommendation hcheck hfresh =>
      exact { Adds.refl s with
        recommendations := .insert_next Recommendation.SameSuggestion.refl rfl (hasNext_iff.1 hnumber) }
  | recommendation hknown =>
      obtain ⟨b, hb, hsame⟩ := hrecommendation _ rfl
      exact { Adds.refl s with
        recommendations :=
          .insert_over Recommendation.SameSuggestion.refl hb (congrArg (fun i => i.value.toNat) hsame.id) hsame }
  | _ => exact .of_same rfl rfl

theorem adds_putRisk (s : Store) (r : RiskRecord) : s.Adds (s.putRisk r) := by
  cases r <;> exact .of_same rfl rfl

end Store

namespace FaultyStore

variable {f : FaultyStore} {c : StoreCall}

theorem adds_raced (f : FaultyStore) (c : StoreCall) : f.store.Adds (f.raced c).store := by
  rcases f.raced_cases c with hsame | ⟨r, -, -, hput⟩
  · rw [hsame]
    exact .refl f.store
  · rw [hput]
    exact f.store.adds_putRisk r.next

theorem adds_perform (hroom : f.hasRoom c = true) (halert : ∀ a, c = .updateAlert a → f.store.RecallsAlert a)
    (hrecommendation : ∀ r, c = .updateRecommendation r → f.store.RecallsRecommendation r) :
    f.store.Adds (f.perform c).2.store := by
  have hraced := f.adds_raced c
  refine hraced.trans ?_
  rcases perform_step hroom with hsame | ⟨hnumber, heffect⟩
  · rw [hsame]
    exact .refl _
  · exact heffect.adds hnumber (fun a ha => hraced.recallsAlert (halert a ha))
      fun r hr => hraced.recallsRecommendation (hrecommendation r hr)

theorem adds_giveUp (f : FaultyStore) (c : StoreCall) : f.store.Adds (f.giveUp c).store := by
  unfold giveUp
  split
  · exact f.adds_raced c
  · exact .refl f.store

end FaultyStore

/-! ## Scripts that add -/

/-- The call writes a whole alert or recommendation over the stored one. -/
def StoreCall.overwrites : StoreCall → Bool
  | updateAlert _ | updateRecommendation _ => true
  | _ => false

namespace Discipline

variable {place : Nat}

/-- Whatever is called, what there is stays and what is new comes behind it. -/
def adding : Discipline where
  Holds _ := True
  Step _ f g := f.store.Adds g.store

theorem allows_adding {c : StoreCall} {f : FaultyStore} (halert : ∀ a, c = .updateAlert a → f.store.RecallsAlert a)
    (hrecommendation : ∀ r, c = .updateRecommendation r → f.store.RecallsRecommendation r) :
    adding.Allows place c f where
  made hroom := ⟨trivial, FaultyStore.adds_perform hroom halert hrecommendation⟩
  givenUp _ := ⟨trivial, f.adds_giveUp c⟩

theorem allows_adding_of_overwrites {c : StoreCall} (hc : c.overwrites = false) (f : FaultyStore) :
    adding.Allows place c f := by
  refine allows_adding ?_ ?_ <;> rintro x rfl <;> cases hc

theorem adding_obeys {α : Type} {x : Script α} (hx : x.Only (fun c => c.overwrites = false)) : x.Obeys adding place :=
  hx.obeys fun _ hc f _ => allows_adding_of_overwrites hc f

/-- A script may write an alert that it has found or opened itself. -/
theorem adding_handles (entity : EntityRef) (draft : EventDraft) :
    adding.Handles place entity draft (fun a f => f.store.RecallsAlert a) where
  stays a other g h hadds ha := hadds.recallsAlert ha
  same a b g hsame _ ha := by
    obtain ⟨stored, hstored, horigin⟩ := ha
    exact ⟨stored, hstored, horigin.trans hsame⟩
  reads g _ := allows_adding_of_overwrites rfl g
  found a g h _ hrun := by
    obtain ⟨hopen, hstore⟩ := Script.openAlert_of_run_ask hrun
    exact ⟨a, hstore ▸ (Store.of_openAlert hopen).1, .refl a⟩
  opens d g _ _ := allows_adding_of_overwrites rfl g
  opened d a g h _ _ hrun := by
    obtain ⟨-, hstore⟩ := Script.insertAlert_of_run_ask hrun
    exact ⟨_, hstore ▸ mem_insertRow_self _ _, .refl _⟩
  writes a g _ ha := allows_adding (fun b hb => by cases hb; exact ha) fun _ h => nomatch h
  logs g _ := allows_adding_of_overwrites rfl g
  logged event a g h _ hrun ha := by
    obtain ⟨-, hstore⟩ := Script.insertEvent_of_run_ask hrun
    obtain ⟨stored, hstored, horigin⟩ := ha
    exact ⟨stored, hstore ▸ hstored, horigin.trans ⟨rfl, rfl, rfl, rfl, rfl⟩⟩

end Discipline

namespace Engine

open Script Discipline

variable {place : Nat}

theorem adding_reassess (e : Engine) (entity : EntityRef) : (e.reassess entity).Obeys adding place := by
  have hask {c : StoreCall} (hc : c.overwrites = false) : (ask c).Obeys adding place := adding_obeys (only_ask hc)
  have hdated {α : Type} (o : Option α) : (inCalendar o).Obeys adding place := adding_obeys (only_inCalendar o)
  cases entity with
  | supplier id =>
      show (e.assessSupplier id).Obeys adding place
      simp only [assessSupplier, saveSupplierAssessment, bind_assoc, pure_bind]
      refine (hask rfl).bind fun history => ?_
      refine (hask rfl).bind fun record => ?_
      refine (hdated _).bind fun start => (hdated _).bind fun assessed => ?_
      refine (hask rfl).bind fun saved f hf => ?_
      exact (adding_handles saved.entity _).notice hf e.now _ _
  | part id =>
      show (e.assessPart id).Obeys adding place
      simp only [assessPart, savePartAssessment, bind_assoc]
      refine (hask rfl).bind fun history => ?_
      refine (hask rfl).bind fun record => ?_
      refine (hdated _).bind fun start => ?_
      refine (hask rfl).bind fun saved f hf => ?_
      exact (adding_handles saved.entity _).notice hf e.now _ _

theorem adding_resolveAlert (e : Engine) (id : AlertId) (resolver : Option String) :
    (e.resolveAlert id resolver).Obeys adding place := by
  intro f hf
  have hfound : (ask (.alert id)).Assures adding place (fun a g => g.store.RecallsAlert a) f := by
    refine assures_ask (c := .alert id)
      (fun g _ => allows_adding_of_overwrites rfl g)
      (fun g a g' _ hrun => ?_) fun a _ g g' hadds ha => hadds.recallsAlert ha
    obtain ⟨hmem, hstore⟩ := alert_of_run_ask hrun
    exact ⟨a, hstore ▸ hmem, .refl a⟩
  refine hfound.bind fun a g hg ha => ?_
  split
  · have hresolved : g.store.RecallsAlert (a.resolve e.now resolver) := by
      obtain ⟨stored, hstored, horigin⟩ := ha
      exact ⟨stored, hstored, horigin.trans ⟨rfl, rfl, rfl, rfl, rfl⟩⟩
    have hhandles := @adding_handles place a.entity {
      date := e.today, title := "", description := "", category := a.category, severity := a.level
      affectedSuppliers := .empty, affectedParts := .empty }
    exact (hhandles.update (hg.holds hf) hresolved).bind fun _ _ _ _ => assures_pure fun _ _ => trivial
  · exact assures_pure fun _ _ => trivial

theorem adding_reviewRecommendation (e : Engine) (id : RecommendationId) (notes : String) :
    (e.reviewRecommendation id notes).Obeys adding place := by
  intro f hf
  have hfound : (ask (.recommendation id)).Assures adding place (fun r g => g.store.RecallsRecommendation r) f := by
    refine assures_ask (c := .recommendation id)
      (fun g _ => allows_adding_of_overwrites rfl g)
      (fun g r g' _ hrun => ?_) fun r _ g g' hadds hr => hadds.recallsRecommendation hr
    obtain ⟨hmem, hstore⟩ := recommendation_of_run_ask hrun
    exact ⟨r, hstore ▸ hmem, .refl r⟩
  refine hfound.bind fun r g hg hr => ?_
  refine Assures.bind (Q := fun _ _ => True) ?_ fun _ _ _ _ => assures_pure fun _ _ => trivial
  refine assures_ask (c := .updateRecommendation (r.review notes e.today)) (fun g' hg' => ?_) (fun _ _ _ _ _ => trivial)
    fun _ _ _ _ _ _ => trivial
  have hrecalls : g'.store.RecallsRecommendation r :=
    hg'.keeps (P := fun g => g.store.RecallsRecommendation r)
      (fun _ _ _ (hadds : Store.Adds _ _) hr => hadds.recallsRecommendation hr) hr
  obtain ⟨stored, hstored, hsame⟩ := hrecalls
  refine allows_adding (fun _ h => nomatch h) fun r' hr' => ?_
  cases hr'
  exact ⟨stored, hstored, hsame.trans rfl⟩

end Engine

/-- Whatever engines are asked for, they add. -/
theorem Discipline.adding_suits (place : Nat) (e : Engine) : adding.Suits place e where
  work pass entity := by
    cases pass with
    | suppliers => exact e.adding_reassess entity
    | parts => exact e.adding_reassess entity
    | recommendations =>
        exact adding_obeys (Script.only_mono (e.only_recommend entity) fun c hc => by
          cases c <;> first | rfl | cases hc)
  lists c hlists f _ := allows_adding_of_overwrites (by rcases hlists with rfl | rfl | rfl | rfl <;> rfl) f
  resolveAlert := e.adding_resolveAlert
  reviewRecommendation := e.adding_reviewRecommendation
  resolveEvent id notes := adding_obeys (Script.only_ask rfl)
  row row := adding_obeys (Script.only_mono (EngineCall.only_row e (List.mem_singleton_self row)) fun c hc => by
    cases hc with
    | works hassesses => cases hassesses
    | lists hassesses => cases hassesses
    | _ => rfl)

/-! ## Parts -/

namespace Store

/-- The threshold of a part is written by the calls that set it. -/
theorem part_stable (s : Store) (id : PartId) :
    Stable (fun c => ∀ threshold, c ≠ .setPartStockThreshold id threshold)
      (fun t => t.parts.find? id.value.toNat = s.parts.find? id.value.toNat) := by
  refine .of_putRisk (fun hc heffect hsame => ?_) fun t r hsame => by cases r <;> exact hsame
  cases heffect with
  | @stockThreshold other part threshold hfind =>
      have hne : rank part ≠ id.value.toNat := by
        intro hrank
        have hother : other = id := PartId.toNat_inj.1 ((Roster.find?_eq_some_iff.1 hfind).2.symm.trans hrank)
        exact hc threshold (hother ▸ rfl)
      show (Roster.insert _ _).find? _ = _
      rw [Roster.find?_insert]
      exact (if_neg hne).trans hsame
  | _ => exact hsame

end Store

/-- The calls that write over rows, but for those about alerts and risk records. -/
def StoreCall.edits : StoreCall → Bool
  | setPartStockThreshold _ _ | updateRecommendation _ | resolveEvent _ _ _ => true
  | _ => false

theorem StoreCall.WorksOn.edits {c : StoreCall} {entity : EntityRef} (hworks : c.WorksOn entity) : c.edits = false := by
  cases hworks with
  | save hsave => cases c <;> first | rfl | contradiction
  | onAlerts hc => cases c <;> first | rfl | contradiction
  | onSuggestions hc => cases c <;> first | rfl | contradiction
  | _ => rfl

namespace EngineCall

variable {e : Engine} {call : EngineCall} {c : StoreCall}

/-- The call imports a threshold for the part. -/
def ImportsPart (id : PartId) : EngineCall → Prop
  | importThresholds rows => ∃ row ∈ rows, row.entity = .part id
  | _ => False

/-- The resolution of the event that the call asks for. -/
def resolution? (e : Engine) (id : EventId) : EngineCall → Option RiskEvent.Resolution
  | resolveEvent other notes => if other = id then some ⟨notes, e.today⟩ else none
  | _ => none

/-- Assessments never edit. -/
theorem assesses_of_edits (hmakes : call.Makes e c) (hedits : c.edits = true) : call.assesses = false := by
  cases hmakes with
  | works hassesses hworks => exact absurd hedits (by simp [hworks.edits])
  | lists hassesses hlists => rcases hlists with rfl | rfl | rfl | rfl <;> cases hedits
  | _ => rfl

/-- Thresholds of parts are set by imports. -/
theorem importsPart_of_makes {id : PartId} {threshold : Option UInt32}
    (hmakes : call.Makes e (.setPartStockThreshold id threshold)) : call.ImportsPart id := by
  have hother := assesses_of_edits hmakes rfl
  cases hmakes with
  | setStockThreshold hrow hid => exact ⟨_, hrow, hid⟩
  | works hassesses => simp [hassesses] at hother
  | lists hassesses => simp [hassesses] at hother

/-- Events are resolved when somebody asks for it. -/
theorem resolution_of_makes {id : EventId} {notes : String} {on : Date}
    (hmakes : call.Makes e (.resolveEvent id notes on)) : call = resolveEvent id notes ∧ on = e.today := by
  have hother := assesses_of_edits hmakes rfl
  cases hmakes with
  | resolveEvent => exact ⟨rfl, rfl⟩
  | works hassesses => simp [hassesses] at hother
  | lists hassesses => simp [hassesses] at hother

/-- Calls that are under way make no store calls but their own. -/
theorem only_pool (f : FaultyStore) (calls : List (Engine × EngineCall)) :
    ∀ x ∈ (pool f calls).scripts, x.Only (fun c => ∃ call ∈ calls, call.2.Makes call.1 c) := by
  intro x hx
  obtain ⟨call, hcall, rfl⟩ := List.mem_map.1 hx
  exact Script.only_mono (call.2.only_script call.1) fun c hc => ⟨call, hcall, hc⟩

end EngineCall

/-! ## Events -/

/-- The resolution of the event that a store call is. -/
def StoreCall.resolution? (id : EventId) : StoreCall → Option RiskEvent.Resolution
  | .resolveEvent other notes on => if other = id then some ⟨notes, on⟩ else none
  | _ => none

/-- The resolutions of an event that are made in a schedule, in their order. -/
def ScriptPool.resolutions (p : ScriptPool) (schedule : List Nat) (id : EventId) : List RiskEvent.Resolution :=
  (p.calls schedule).filterMap (·.resolution? id)

namespace Store

variable {s t : Store} {c : StoreCall}

/-- Unless they are resolved, events only come in. -/
theorem Effect.events_grow (heffect : s.Effect c t) (hnumber : s.hasNumberFor c = true)
    (hother : ∀ id notes on, c ≠ .resolveEvent id notes on) : s.events.Grows Eq t.events := by
  cases heffect with
  | newEvent draft => exact .insert_next (fun _ => rfl) rfl (hasNext_iff.1 hnumber)
  | event notes on hfind => exact absurd rfl (hother _ notes on)
  | _ => exact .refl (fun _ => rfl) _

/-- A resolution writes the event that it finds, and no other. -/
theorem events_resolveEvent (s : Store) (id : EventId) (notes : String) (on : Date) :
    s.events.Grows (fun a b => b = a.resolvedBy (StoreCall.resolution? a.id (.resolveEvent id notes on)).toList)
      (match s.events.find? id.value.toNat with
        | some event => s.events.insert (event.resolve notes on)
        | none => s.events) := by
  have hother {a : RiskEvent} (hne : id ≠ a.id) :
      a = a.resolvedBy (StoreCall.resolution? a.id (.resolveEvent id notes on)).toList := by
    simp [StoreCall.resolution?, hne, RiskEvent.resolvedBy_nil]
  cases hstored : s.events.find? id.value.toNat with
  | none =>
      -- Nothing is stored under the number, so no event is asked about.
      refine ⟨fun a ha => ⟨a, ha, rfl, hother fun h => ?_⟩, fun b hb => .inl ⟨b, hb, rfl⟩⟩
      exact Roster.find?_eq_none_iff.1 hstored a ha (by rw [h]; rfl)
  | some event =>
      obtain ⟨hmem, hrank⟩ := Roster.find?_eq_some_iff.1 hstored
      have hid : event.id = id := EventId.toNat_inj.1 hrank
      refine ⟨fun a ha => ?_, fun b hb => ?_⟩
      · by_cases hsame : id = a.id
        · have hevent : a = event := Roster.eq_of_rank_eq ha hmem (by rw [hrank, hsame]; rfl)
          refine ⟨event.resolve notes on, mem_insertRow_self _ _, by rw [hevent]; rfl, ?_⟩
          rw [hevent, StoreCall.resolution?, if_pos hid.symm, Option.toList, RiskEvent.resolvedBy_cons,
            RiskEvent.resolvedBy_nil]
        · refine ⟨a, Roster.mem_insert_iff.2 (.inr ⟨ha, ?_⟩), rfl, hother hsame⟩
          exact fun h => hsame (EventId.toNat_inj.1 (hrank.symm.trans h.symm))
      · rcases Roster.mem_insert_iff.1 hb with rfl | ⟨hb, -⟩
        · exact .inl ⟨event, hmem, rfl⟩
        · exact .inl ⟨b, hb, rfl⟩

end Store

namespace FaultyStore

variable {f : FaultyStore} {c : StoreCall}

theorem events_raced (f : FaultyStore) (c : StoreCall) : (f.raced c).store.events = f.store.events := by
  rcases f.raced_cases c with hsame | ⟨r, -, -, hput⟩
  · rw [hsame]
  · rw [hput]
    exact (f.store.sameLog_putRisk r.next).events

/-- A call resolves the event that it is to resolve; other events only come in. -/
theorem events_perform (hroom : f.hasRoom c = true) :
    f.store.events.Grows (fun a b => b = a.resolvedBy (c.resolution? a.id).toList) (f.perform c).2.store.events := by
  have hother (hc : ∀ id notes on, c ≠ .resolveEvent id notes on) :
      f.store.events.Grows (fun a b => b = a.resolvedBy (c.resolution? a.id).toList) (f.perform c).2.store.events := by
    have hnone (id : EventId) : c.resolution? id = none := by
      cases c with
      | resolveEvent other notes on => exact absurd rfl (hc other notes on)
      | _ => rfl
    have hgrows : f.store.events.Grows Eq (f.perform c).2.store.events := by
      rw [← f.events_raced c]
      rcases perform_step hroom with hsame | ⟨hnumber, heffect⟩
      · rw [hsame]
        exact .refl (fun _ => rfl) _
      · exact heffect.events_grow hnumber hc
    refine hgrows.mono fun a b hab => ?_
    rw [hnone, Option.toList, RiskEvent.resolvedBy_nil, hab]
  cases c with
  | resolveEvent id notes on =>
      have hresolved := f.store.events_resolveEvent id notes on
      simp only [perform, pass, Store.perform, Store.resolveEvent]
      cases hfind : f.store.events.find? id.value.toNat with
      | none =>
          rw [hfind] at hresolved
          exact hresolved
      | some event =>
          rw [hfind] at hresolved
          exact hresolved
  | _ => exact hother (by rintro _ _ _ ⟨⟩)

theorem events_giveUp (f : FaultyStore) (c : StoreCall) : (f.giveUp c).store.events = f.store.events := by
  unfold giveUp
  split
  · exact f.events_raced c
  · rfl

end FaultyStore

namespace ScriptPool

/-- Whatever the schedule is, events are resolved as its calls say, and new ones come behind them. -/
theorem events_run (p : ScriptPool) (schedule : List Nat) :
    p.store.events.Grows (fun a b => b = a.resolvedBy (p.resolutions schedule a.id)) (p.run schedule).store.events := by
  induction schedule generalizing p with
  | nil => exact .refl (fun a => a.resolvedBy_nil.symm) _
  | cons i schedule ih =>
      have hstep : p.store.events.Grows (fun a b => b = a.resolvedBy (((p.called? i).toList).filterMap (·.resolution? a.id)))
          (p.step i).store.events := by
        rcases p.step_cases i with ⟨hstep, hcalled⟩ | ⟨c, next, -, hroom, hcalled, hstep⟩ | ⟨c, next, -, -, hcalled, hstep⟩
        · rw [hstep, hcalled]
          exact .refl (fun a => a.resolvedBy_nil.symm) _
        · rw [hstep, hcalled]
          refine (FaultyStore.events_perform hroom).mono fun a b hab => ?_
          rw [hab]
          cases hresolution : c.resolution? a.id <;> simp [hresolution]
        · rw [hstep, hcalled]
          show p.backend.store.events.Grows _ (p.backend.giveUp c).store.events
          rw [FaultyStore.events_giveUp]
          exact .refl (fun a => a.resolvedBy_nil.symm) _
      refine hstep.trans (fun a b c hab hbc => ?_) (ih (p.step i))
      have hid : b.id = a.id := by
        rw [hab]
        rfl
      show c = a.resolvedBy (((p.called? i).toList ++ (p.step i).calls schedule).filterMap (·.resolution? a.id))
      rw [List.filterMap_append, RiskEvent.resolvedBy_append, ← hab, ← hid]
      exact hbc

/-- What is resolved was to be resolved. -/
theorem exists_of_mem_resolutions {p : ScriptPool} {calls : List (Engine × EngineCall)}
    (honly : ∀ x ∈ p.scripts, x.Only (fun c => ∃ call ∈ calls, call.2.Makes call.1 c)) (schedule : List Nat)
    {id : EventId} {r : RiskEvent.Resolution} (hr : r ∈ p.resolutions schedule id) :
    ∃ call ∈ calls, call.2.resolution? call.1 id = some r := by
  obtain ⟨c, hc, hresolution⟩ := List.mem_filterMap.1 hr
  obtain ⟨call, hcall, hmakes⟩ := only_calls honly schedule c hc
  cases c with
  | resolveEvent other notes on =>
      obtain ⟨hasks, rfl⟩ := EngineCall.resolution_of_makes hmakes
      refine ⟨call, hcall, ?_⟩
      rw [hasks]
      exact hresolution
  | _ => cases hresolution

end ScriptPool

/-! ## Any calls -/

namespace FaultyStore

/-- **Append-only history.**  However many calls of engines are under way, and whatever the order of their store calls,
from each moment to each later one they only add to the store: it goes on from what it was, a part that nobody imports a
threshold for stays as it is, alerts keep their origin, recommendations are changed by reviews only, and events are
resolved as often as it was asked for.  Calls one after the other are a case of that. -/
theorem engine_calls_only_add (f : FaultyStore) (calls : List (Engine × EngineCall)) (before after : List Nat) :
    let p := (EngineCall.pool f calls).run before
    let t := (p.run after).store
    p.store.Continues t ∧
      (∀ id, (∀ call ∈ calls, ¬ call.2.ImportsPart id) →
        t.parts.find? id.value.toNat = p.store.parts.find? id.value.toNat) ∧
      p.store.alerts.Grows Alert.SameOrigin t.alerts ∧
      p.store.recommendations.Grows Recommendation.SameSuggestion t.recommendations ∧
      p.store.events.Grows (fun a b => b = a.resolvedBy (p.resolutions after a.id)) t.events ∧
      (∀ id, ∀ r ∈ p.resolutions after id, ∃ call ∈ calls, call.2.resolution? call.1 id = some r) ∧
      ∃ schedule, ((EngineCall.pool f calls).run schedule).backend = f.afterCalls calls := by
  intro p t
  have honly : ∀ x ∈ p.scripts, x.Only (fun c => ∃ call ∈ calls, call.2.Makes call.1 c) :=
    ScriptPool.only_run (EngineCall.only_pool f calls) before
  have hstart : (EngineCall.pool f calls).Disciplined .adding :=
    EngineCall.disciplined_pool trivial fun place call _ => Discipline.adding_suits place call.1
  have hadds : p.store.Adds t :=
    (((hstart.run before).1.run after).2).lift (R := fun g h => g.store.Adds h.store) (.refl _)
      (fun _ _ hfg hgh => hfg.trans hgh) fun _ _ _ hadds => hadds
  refine ⟨p.continues_run after, fun id hid => ?_, hadds.alerts, hadds.recommendations, p.events_run after,
    fun id r => ScriptPool.exists_of_mem_resolutions honly after, EngineCall.exists_schedule f calls⟩
  refine ScriptPool.run_stable (P := fun t => t.parts.find? id.value.toNat = p.store.parts.find? id.value.toNat)
    (Store.part_stable p.store id) (fun x hx => ?_) rfl after
  refine Script.only_mono (honly x hx) fun c hc threshold hset => ?_
  obtain ⟨call, hcall, hmakes⟩ := hc
  exact hid call hcall (EngineCall.importsPart_of_makes (hset ▸ hmakes))

/-- Two threads assess a part at the same time, and both log the event that its alert owes; then a threshold is imported
for the part.  One of the events is resolved twice, and keeps the day of the first time. -/
theorem engine_calls_add_an_event :
    let first := Engine.standardOn ⟨19000, by decide, by decide⟩
    let second := Engine.standardOn ⟨19001, by decide, by decide⟩
    let calls : List (Engine × EngineCall) :=
      [(first, .reassess (.part ⟨10⟩)), (second, .listen [[.part ⟨10⟩, .supplier ⟨2⟩]]),
        (first, .importThresholds [⟨.part, 10, some 5⟩]), (first, .resolveEvent ⟨1⟩ "seen"),
        (second, .resolveEvent ⟨1⟩ "done")]
    let before := (List.replicate 9 [0, 1]).flatten
    let p := (EngineCall.pool (plain Store.oneSource) calls).run before
    let after := [3, 2, 4]
    let t := (p.run after).store
    p.store.Continues t ∧ p.store.alerts.Grows Alert.SameOrigin t.alerts ∧
      p.store.events.Grows (fun a b => b = a.resolvedBy (p.resolutions after a.id)) t.events ∧
      p.resolutions after ⟨1⟩ = [⟨"seen", first.today⟩, ⟨"done", second.today⟩] ∧
      p.store.events.rows.map (fun event => (event.id, event.resolved)) = [(⟨1⟩, false), (⟨2⟩, false)] ∧
      t.events.rows.map (fun event => (event.id, event.resolved, event.resolutionDate, event.resolutionNotes)) =
        [(⟨1⟩, true, some first.today, "done"), (⟨2⟩, false, none, "")] ∧
      t.parts.rows.map Part.lowStockThreshold = [some 5] := by
  intro first second calls before p after t
  obtain ⟨hcontinues, -, halerts, -, hevents, -, -⟩ :=
    engine_calls_only_add (plain Store.oneSource) calls before after
  exact ⟨hcontinues, halerts, hevents, by decide +kernel, by decide +kernel, by decide +kernel, by decide +kernel⟩

end FaultyStore

end SupplyRisk
