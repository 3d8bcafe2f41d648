import Mathlib.Data.List.Nodup
import SupplyRisk.Proofs.Engine.Accounting
import SupplyRisk.Proofs.Engine.Deed
import SupplyRisk.Proofs.Store.Renumber

/-!
# The order of visits

A pass may be divided into parts whose tallies are merged in the end, and may visit its targets in any order.  Since
each visit does what it would have done first, another order makes the same writes in another order, which shows in
the numbers of what is new and nowhere else (`visits_in_any_order`).
-/

namespace SupplyRisk

theorem EntityRef.rank_inj {z z' : EntityRef} : z.rank = z'.rank ↔ z = z' := by
  refine ⟨fun hrank => ?_, congrArg rank⟩
  cases z with
  | supplier id =>
      cases z' with
      | supplier id' => exact congrArg supplier (congrArg SupplierId.mk (UInt64.toNat_inj.1 hrank))
      | part id' =>
          have : id.value.toNat = Word.count64 + id'.value.toNat := hrank
          have : id.value.toNat < Word.count64 := id.value.toNat_lt
          omega
  | part id =>
      cases z' with
      | supplier id' =>
          have : Word.count64 + id.value.toNat = id'.value.toNat := hrank
          have : id'.value.toNat < Word.count64 := id'.value.toNat_lt
          omega
      | part id' =>
          exact congrArg part (congrArg PartId.mk (UInt64.toNat_inj.1 (Nat.add_left_cancel hrank)))

theorem Operation.rank_inj {a b : Operation} : a.rank = b.rank ↔ a = b := by
  cases a <;> cases b <;> decide

/-- No two failures are of the same operation on the same entity. -/
def Failure.Apart (errors : List Failure) : Prop :=
  ∀ f ∈ errors, ∀ g ∈ errors, f.entity = g.entity → f.operation = g.operation → f = g

/-- Failures that stand apart have one order. -/
theorem Failure.Apart.eq_of_perm {errors errors' : List Failure} (hapart : Failure.Apart errors)
    (hperm : errors.Perm errors') (hsorted : errors.Pairwise (fun a b => a.le b = true))
    (hsorted' : errors'.Pairwise (fun a b => a.le b = true)) : errors = errors' := by
  refine hperm.eq_of_pairwise (fun f g hf hg hfg hgf => ?_) hsorted hsorted'
  rw [Failure.le_iff] at hfg hgf
  exact hapart f hf g (hperm.mem_iff.2 hg) (EntityRef.rank_inj.1 (by omega)) (Operation.rank_inj.1 (by omega))

theorem Failure.Apart.sort_eq {errors errors' : List Failure} (hapart : Failure.Apart errors)
    (hperm : errors.Perm errors') : errors.mergeSort Failure.le = errors'.mergeSort Failure.le := by
  have hsorted := List.mergeSort_perm errors Failure.le
  refine Failure.Apart.eq_of_perm (fun f hf g hg => hapart f (hsorted.mem_iff.1 hf) g (hsorted.mem_iff.1 hg)) ?_
    (RunSummary.pairwise_sortErrors { errors }) (RunSummary.pairwise_sortErrors { errors := errors' })
  exact hsorted.trans (hperm.trans (List.mergeSort_perm errors' Failure.le).symm)

/-! ## Tallies in another order -/

namespace Tally

/-- The tally without its failures. -/
def counters (t : Tally) : Tally := { t with failures := [] }

/-- The tally with its failures sorted as those of a summary are. -/
def sortFailures (t : Tally) : Tally :=
  { t with failures := ({ errors := t.failures } : RunSummary).sortErrors.errors }

theorem counters_merge (t u : Tally) : (t.merge u).counters = t.counters.merge u.counters := rfl

theorem counters_merge_comm (t u : Tally) : t.counters.merge u.counters = u.counters.merge t.counters := by
  simp only [merge, counters, Nat.add_comm, List.append_nil]

variable {pass : Pass} {visits visits' : List Visit}

theorem counters_ofVisits_perm (pass : Pass) (hperm : visits.Perm visits') :
    (ofVisits pass visits).counters = (ofVisits pass visits').counters := by
  induction hperm with
  | nil => rfl
  | cons v _ ih => rw [ofVisits, ofVisits, counters_merge, counters_merge, ih]
  | swap v v' vs =>
      simp only [ofVisits, counters_merge]
      rw [← merge_assoc, ← merge_assoc, counters_merge_comm (ofVisit pass v') (ofVisit pass v)]
  | trans _ _ ihfirst ihsecond => exact ihfirst.trans ihsecond

theorem failures_ofVisits (pass : Pass) (visits : List Visit) :
    (ofVisits pass visits).failures = visits.flatMap fun v => (ofVisit pass v).failures := by
  induction visits with
  | nil => rfl
  | cons v vs ih => rw [List.flatMap_cons, ← ih]; rfl

/-- Visits to different entities fail once each, so that their failures have one order. -/
theorem eq_of_failures (hnodup : (visits.map (·.entity)).Nodup) {f g : Failure}
    (hf : f ∈ (ofVisits pass visits).failures) (hg : g ∈ (ofVisits pass visits).failures)
    (hentity : f.entity = g.entity) : f = g := by
  have hvisit {f : Failure} (hf : f ∈ (ofVisits pass visits).failures) :
      ∃ v ∈ visits, v.entity = f.entity ∧ (ofVisit pass v).failures = [f] := by
    rw [failures_ofVisits] at hf
    obtain ⟨v, hv, hf⟩ := List.mem_flatMap.1 hf
    obtain ⟨entity, result⟩ := v
    cases result with
    | ok o => cases hf
    | error error =>
        obtain rfl := List.mem_singleton.1 hf
        exact ⟨_, hv, rfl, rfl⟩
  obtain ⟨v, hv, hvf, hfailures⟩ := hvisit hf
  obtain ⟨v', hv', hvg, hfailures'⟩ := hvisit hg
  obtain rfl : v = v' := List.inj_on_of_nodup_map hnodup hv hv' (hvf.trans (hentity.trans hvg.symm))
  exact List.singleton_inj.1 (hfailures.symm.trans hfailures')

theorem failures_ofVisits_perm (pass : Pass) (hperm : visits.Perm visits') :
    (ofVisits pass visits).failures.Perm (ofVisits pass visits').failures := by
  rw [failures_ofVisits, failures_ofVisits]
  exact hperm.flatMap_right _

/-- The order of visits does not show in the tally, once its failures are sorted. -/
theorem sortFailures_ofVisits_perm (hperm : visits.Perm visits') (hnodup : (visits.map (·.entity)).Nodup) :
    (ofVisits pass visits).sortFailures = (ofVisits pass visits').sortFailures := by
  have hapart : Failure.Apart (ofVisits pass visits).failures :=
    fun f hf g hg hentity _ => eq_of_failures hnodup hf hg hentity
  have hsorted : (ofVisits pass visits).sortFailures.failures = (ofVisits pass visits').sortFailures.failures :=
    hapart.sort_eq (failures_ofVisits_perm pass hperm)
  show ({ (ofVisits pass visits).counters with failures := (ofVisits pass visits).sortFailures.failures } : Tally) = _
  rw [counters_ofVisits_perm pass hperm, hsorted]
  rfl

end Tally

/-! ## Divided passes -/

/-- A division of the entities of a pass.  Chunks are visited one entity after the other. -/
inductive Division where
  | chunk (entities : List EntityRef)
  | join (first second : Division)

/-- The entities of a division in the order of their visits. -/
def Division.entities : Division → List EntityRef
  | chunk entities => entities
  | join first second => first.entities ++ second.entities

namespace Engine

/-- Visits the entities of a division without a time limit, and merges the tallies of its parts. -/
def visitAll (e : Engine) (pass : Pass) : Division → Running Tally
  | .chunk entities => entities.foldlM (e.visit (fun _ => false) pass) {}
  | .join first second => do
      let tally ← visitAll e pass first
      let rest ← visitAll e pass second
      return tally.merge rest

variable {e : Engine} {pass : Pass} {s : Store}

theorem tour_append (e : Engine) (pass : Pass) (targets more : List EntityRef) (f : FaultyStore) :
    e.tour pass (targets ++ more) f = (do
      let visits ← e.tour pass targets
      let others ← e.tour pass more
      return visits ++ others : OnStore (List Visit)) f := by
  induction targets generalizing f with
  | nil =>
      simp only [tour, List.nil_append, OnStore.bind_apply, OnStore.pure_apply]
      cases e.tour pass more f <;> rfl
  | cons z rest ih =>
      simp only [tour, List.cons_append, OnStore.bind_apply, OnStore.pure_apply, ih]
      cases e.visitOn pass z f with
      | error cause g => rfl
      | ok v g =>
          dsimp only
          cases e.tour pass rest g with
          | error cause h => rfl
          | ok vs h =>
              dsimp only
              cases e.tour pass more h <;> rfl

/-- Chunks are visited one entity after the other. -/
theorem chunk_does (e : Engine) (pass : Pass) (entities : List EntityRef) (tally : Tally) :
    (entities.foldlM (e.visit (fun _ => false) pass) tally).Does
      (do return tally.merge (← e.tallyOf pass .endless entities)) := by
  induction entities generalizing tally with
  | nil =>
      rw [merge_tallyOf_nil]
      exact Running.does_pure tally
  | cons z rest ih =>
      have hvisit : (e.visit (fun _ => false) pass tally z).Does
          (do return tally.merge (← e.counted pass .endless z)) := visit_does e pass (fun _ => by decide) tally z
      rw [List.foldlM_cons, ← merge_tallyOf_cons]
      exact Running.does_bind hvisit ih

/-- However a pass is divided, it visits one entity after the other and counts what the visits come to. -/
theorem visitAll_does (e : Engine) (pass : Pass) (d : Division) :
    (e.visitAll pass d).Does (do return .ofVisits pass (← e.tour pass d.entities)) := by
  induction d with
  | chunk entities =>
      have hvisits := e.chunk_does pass entities {}
      simp only [Tally.empty_merge, bind_pure] at hvisits
      exact hvisits
  | join first second ihfirst ihsecond =>
      intro w
      refine (Running.does_bind ihfirst
        (fun tally => Running.does_bind ihsecond fun rest => Running.does_pure (tally.merge rest)) w).trans ?_
      simp only [Division.entities, OnStore.bind_apply, OnStore.pure_apply, tour_append]
      cases e.tour pass first.entities w.backend with
      | error cause g => rfl
      | ok visits g =>
          dsimp only
          cases e.tour pass second.entities g with
          | error cause h => rfl
          | ok others h => exact congrArg (EStateM.Result.ok · h) (Tally.ofVisits_append ..).symm

theorem tour_of_visitAll {d : Division} {w v : World} {tally : Tally} (hvisits : e.visitAll pass d w = .ok tally v) :
    ∃ visits, e.tour pass d.entities w.backend = .ok visits v.backend ∧ tally = .ofVisits pass visits := by
  have hends := visitAll_does e pass d w
  rw [Running.ends_eq_ok_iff.2 ⟨v, hvisits, rfl⟩] at hends
  exact tallyOf_eq_ok hends.symm

theorem visitAll_of_tour {d : Division} {w : World} {visits : List Visit} {g : FaultyStore}
    (htour : e.tour pass d.entities w.backend = .ok visits g) :
    ∃ v, e.visitAll pass d w = .ok (.ofVisits pass visits) v ∧ v.backend = g := by
  have hends := visitAll_does e pass d w
  simp only [OnStore.bind_apply, OnStore.pure_apply, htour] at hends
  exact Running.ends_eq_ok_iff.1 hends

/-- Another order makes the same visits and the same writes. -/
theorem tour_perm (e : Engine) (pass : Pass) {s t : Store} {targets targets' : List EntityRef} {visits : List Visit}
    (hperm : targets.Perm targets') (hnodup : targets.Nodup) (hlinks : s.LinksApart t)
    (htour : e.tour pass targets (.plain s) = .ok visits (.plain t)) :
    ∃ visits' σ, visits.Perm visits' ∧ σ.Within s t ∧
      e.tour pass targets' (.plain s) = .ok visits' (.plain (t.renumber σ)) := by
  obtain ⟨hroom, hanswers, rfl, ht⟩ := answers_of_tour hnodup htour
  obtain rfl : t = _ := congrArg FaultyStore.store ht
  have hwritesOf : (e.writesOf pass s targets).Perm (e.writesOf pass s targets') :=
    hperm.flatMap_right fun z => (e.deed pass s z).writes
  obtain ⟨σ, hwithin, hwrites⟩ := Store.writes_perm hwritesOf (e.apart_writesOf pass s hnodup)
    (e.knows_writesOf pass s targets) hlinks hroom
  refine ⟨e.visitsOf pass s targets', σ, hperm.filterMap _, hwithin, ?_⟩
  rw [e.tour_of_answers (hperm.nodup_iff.1 hnodup) (hroom.perm hwritesOf) fun z hz =>
    hanswers z (hperm.mem_iff.2 hz)]
  exact congrArg (fun t => EStateM.Result.ok _ (FaultyStore.plain t)) hwrites

/-- **The order of entities does not matter.**  Let a pass over a store without faults visit its targets in some order,
divided in some way, and succeed.  Let no alert of the store refer to an event whose number the pass assigns.  Then the
pass succeeds in any other order and division too.

* It counts the same and fails for the same entities in the same way.
* It leaves the same store under other numbers, where none is moved but those that the pass has assigned. -/
theorem visits_in_any_order (e : Engine) (pass : Pass) (s t : Store) (d d' : Division)
    (hd : d.entities.Perm (pass.targets s)) (hd' : d'.entities.Perm (pass.targets s)) (w w' v : World)
    (hw : w.backend = .plain s) (hw' : w'.backend = .plain s) (tally : Tally)
    (hvisits : e.visitAll pass d w = .ok tally v) (hv : v.backend = .plain t) (hlinks : s.LinksApart t) :
    ∃ tally' v' σ, e.visitAll pass d' w' = .ok tally' v' ∧ tally'.sortFailures = tally.sortFailures ∧
      σ.Within s t ∧ v'.backend = .plain (t.renumber σ) := by
  have hnodup : d.entities.Nodup := hd.nodup_iff.2 (pass.nodup_targets s)
  obtain ⟨visits, htour, rfl⟩ := tour_of_visitAll hvisits
  rw [hw, hv] at htour
  obtain ⟨visits', σ, hperm, hwithin, htour'⟩ := e.tour_perm pass (hd.trans hd'.symm) hnodup hlinks htour
  rw [← hw'] at htour'
  obtain ⟨v', hvisits', hv'⟩ := visitAll_of_tour htour'
  have hentities : (visits.map (·.entity)).Nodup := (entities_of_tour htour).symm ▸ hnodup
  exact ⟨_, v', σ, hvisits', (Tally.sortFailures_ofVisits_perm hperm hentities).symm, hwithin, hv'⟩

/-- What a pass leaves can be told from its tour. -/
theorem visitAll_leaves (e : Engine) (pass : Pass) (d : Division) (s : Store) (P : Store → Prop) [DecidablePred P]
    (hleaves : OnStore.answer? (do
      let _ ← e.tour pass d.entities
      return decide (P (← get).store)) (.plain s) = some true) :
    ∃ tally v t, e.visitAll pass d { backend := .plain s } = .ok tally v ∧ v.backend = .plain t ∧ P t := by
  simp only [OnStore.answer?, OnStore.bind_apply] at hleaves
  cases htour : e.tour pass d.entities (.plain s) with
  | error cause g =>
      rw [htour] at hleaves
      cases hleaves
  | ok visits g =>
      rw [htour] at hleaves
      obtain ⟨v, hvisits, hv⟩ := visitAll_of_tour (w := { backend := .plain s }) htour
      exact ⟨_, v, g.store, hvisits, hv.trans (plain_of_tour htour), of_decide_eq_true (Option.some.inj hleaves)⟩

/-- Two parts with a single supplier. -/
def twoSources : Store := twoParts.link ⟨⟨1⟩, ⟨11⟩⟩

def sampleEvent (id : EventId) : RiskEvent :=
  .ofDraft id
    { date := Store.sampleDay, title := "", description := "", category := .quality, severity := .medium,
      affectedSuppliers := .empty, affectedParts := .empty }

/-- An alert of the supplier was resolved; it refers to the first event. -/
def oldAlert : Alert := { Store.sampleAlert ⟨1⟩ true with event := some ⟨1⟩ }

/-- The resolved alert refers to an event that is there. -/
def linked : Store := { twoSources with alerts := .ofList [oldAlert], events := .ofList [sampleEvent ⟨1⟩] }

/-- The parts one by one, and both at once the other way round. -/
theorem second_part_first :
    let e := standardOn Store.sampleDay
    let w : World := { backend := .plain linked }
    let d : Division := .join (.chunk [.part ⟨10⟩]) (.chunk [.part ⟨11⟩])
    let d' : Division := .chunk [.part ⟨11⟩, .part ⟨10⟩]
    d.entities.Perm (Pass.parts.targets linked) ∧ d'.entities.Perm (Pass.parts.targets linked) ∧
      ∃ tally v t, e.visitAll .parts d w = .ok tally v ∧ v.backend = .plain t ∧ t.events.rows.length = 3 ∧
        linked.LinksApart t ∧ ∃ tally' v' σ, e.visitAll .parts d' w = .ok tally' v' ∧ tally'.sortFailures = tally.sortFailures ∧
          σ.Within linked t ∧ v'.backend = .plain (t.renumber σ) := by
  intro e w d d'
  have hperm : d.entities.Perm (Pass.parts.targets linked) := by decide
  have hperm' : d'.entities.Perm (Pass.parts.targets linked) := by decide
  obtain ⟨tally, v, t, hvisits, hv, hevents⟩ :=
    visitAll_leaves e .parts d linked (fun t => t.events.rows.length = 3) (by decide +kernel)
  have hlinks : linked.LinksApart t := Store.linksApart_of_linked fun a ha event hevent => by
    obtain rfl : a = oldAlert := List.mem_singleton.1 ha
    obtain rfl : ⟨1⟩ = event := Option.some.inj hevent
    exact ⟨sampleEvent ⟨1⟩, List.mem_singleton.2 rfl, rfl⟩
  exact ⟨hperm, hperm', tally, v, t, hvisits, hv, hevents, hlinks,
    visits_in_any_order e .parts linked t d d' hperm hperm' w w v rfl rfl tally hvisits hv hlinks⟩

/-- The resolved alert refers to an event that is not there yet. -/
def dangling : Store := { twoSources with alerts := .ofList [oldAlert] }

theorem event_of_renumber {t t' : Store} {σ : Renumbering} {event : RiskEvent} (ht : t' = t.renumber σ)
    (hevent : event ∈ t.events.rows) : event.renumber σ ∈ t'.events.rows := by
  rw [ht]
  exact (Roster.mem_relabel_iff σ.faithful_event).2 ⟨event, hevent, rfl⟩

theorem alert_of_renumber {t t' : Store} {σ : Renumbering} {a : Alert} (ht : t' = t.renumber σ)
    (ha : a ∈ t.alerts.rows) : a.renumber σ ∈ t'.alerts.rows := by
  rw [ht]
  exact (Roster.mem_relabel_iff σ.faithful_alert).2 ⟨a, ha, rfl⟩

/-- Where an alert refers to an event that is not there yet, it refers to the event of the first part that is
visited. -/
theorem order_shows :
    let e := standardOn Store.sampleDay
    let d : Division := .chunk [.part ⟨10⟩, .part ⟨11⟩]
    let d' : Division := .chunk [.part ⟨11⟩, .part ⟨10⟩]
    e.config.run.timeoutSeconds = none ∧ dangling.OneOpen ∧ d.entities.Perm (Pass.parts.targets dangling) ∧
      d'.entities.Perm (Pass.parts.targets dangling) ∧
      ∃ tally v t tally' v' t', e.visitAll .parts d { backend := .plain dangling } = .ok tally v ∧
        v.backend = .plain t ∧ e.visitAll .parts d' { backend := .plain dangling } = .ok tally' v' ∧
        v'.backend = .plain t' ∧ ∀ σ : Renumbering, t' ≠ t.renumber σ := by
  intro e d d'
  refine ⟨rfl, by decide, by decide, by decide, ?_⟩
  obtain ⟨tally, v, t, hvisits, hv, ⟨event, hevent, hid, hparts⟩, a, ha, hsupplier, hlink⟩ :=
    visitAll_leaves e .parts d dangling (fun t =>
      (∃ event ∈ t.events.rows, event.id = ⟨1⟩ ∧ event.affectedParts.rows = [⟨10⟩]) ∧
        ∃ a ∈ t.alerts.rows, a.entity = .supplier ⟨1⟩ ∧ a.event = some ⟨1⟩) (by decide +kernel)
  obtain ⟨tally', v', t', hvisits', hv', hevents, halerts⟩ :=
    visitAll_leaves e .parts d' dangling (fun t =>
      (∀ event ∈ t.events.rows, event.id = ⟨1⟩ → event.affectedParts.rows = [⟨11⟩]) ∧
        ∀ a ∈ t.alerts.rows, a.entity = .supplier ⟨1⟩ → a.event = some ⟨1⟩) (by decide +kernel)
  refine ⟨tally, v, t, tally', v', t', hvisits, hv, hvisits', hv', fun σ ht => ?_⟩
  -- The alert still refers to the first event, but that is the one of the other part.
  have hfixed : (a.renumber σ).event = some ⟨1⟩ := halerts _ (alert_of_renumber ht ha) hsupplier
  rw [Alert.renumber, hlink] at hfixed
  have hmoved : (event.renumber σ).id = ⟨1⟩ := by
    rw [RiskEvent.renumber, hid]
    exact Option.some.inj hfixed
  have hother := hevents _ (event_of_renumber ht hevent) hmoved
  cases hparts.symm.trans hother

end Engine

end SupplyRisk
