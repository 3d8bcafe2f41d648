import SupplyRisk.Proofs.Engine.Visit
import SupplyRisk.Proofs.Engine.Drafts
import SupplyRisk.Proofs.Engine.Writes

/-!
# What work on an entity leaves alone

An attempt to assess an entity changes the risk record of this entity, alerts and events (`reassess_brings`), and an
attempt to recommend adds what is planned to the suggestions (`recommend_suggests`).  So the risk records of other
entities stay as they are, and suggestions and events only come in under next numbers.
-/

namespace SupplyRisk

/-! ## Attempts -/

namespace Engine

/-- How an attempt to recommend goes: for a supplier there is nothing to do; a history that cannot be read ends it with
nothing done; otherwise all that is planned is suggested, or as much of it as there are numbers for. -/
inductive Suggests (e : Engine) (f : FaultyStore) : EntityRef → Except Halt Outcome × FaultyStore → Prop
  | idle (id : SupplierId) : Suggests e f (.supplier id) (.ok {}, f)
  | stops {id : PartId} {g : FaultyStore} (error : RiskError) (hstore : g.store = f.store) :
      Suggests e f (.part id) (.error (.failure error), g)
  | adds {id : PartId} {g : FaultyStore}
      (hall : (f.store.withRisk 0 (.part id)).suggestsAll (e.drafts f.store id) = true)
      (hstore : g.store = (e.drafts f.store id).foldl Store.suggest (f.store.withRisk 0 (.part id))) :
      Suggests e f (.part id) (.ok { recommendations := (e.drafts f.store id).length }, g)
  | lacks {id : PartId} {g : FaultyStore}
      (hstore : g.store = (f.store.withRisk 0 (.part id)).suggestMost (e.drafts f.store id)) :
      Suggests e f (.part id) (.error .word, g)

theorem recommend_suggests (e : Engine) (entity : EntityRef) (f : FaultyStore) :
    e.Suggests f entity ((e.recommend entity).run f) := by
  cases entity with
  | supplier id => exact .idle id
  | part id =>
      cases hmissing : f.faults.missing.contains (EntityRef.part id).rank with
      | true =>
          rw [recommend_run_of_unread (FaultyStore.readHistory_of_missing (.partHistory id) hmissing)]
          exact .stops _ rfl
      | false =>
      cases hfault : f.faults.transientOnce.contains (EntityRef.part id).rank with
      | true =>
          rw [recommend_run_of_unread (FaultyStore.readHistory_of_transient (.partHistory id) hmissing hfault)]
          exact .stops _ rfl
      | false =>
      -- No other fault is met, so the attempt goes as it does without faults.
      rw [Script.run_spared (recommend_spared hmissing hfault)]
      cases hknown : f.store.knows (.part id) with
      | false =>
          rw [recommend_run_of_unknown hknown]
          exact .stops _ rfl
      | true =>
          rw [recommend_of_known hknown]
          split
          · rename_i hall
            exact .adds hall rfl
          · exact .lacks rfl

end Engine

/-- What work that ended in this way contributes; a failure contributes nothing. -/
def outcomeOf {ε : Type} : Except ε Outcome → Outcome
  | .ok o => o
  | .error _ => {}

namespace Engine

/-- What work on an entity brings about in a store: records of other entities stay, events and, unless the numbers end,
suggestions come in as many as are reported, and the record that an assessment saved has the risk that it reports. -/
structure Brings (pass : Pass) (entity : EntityRef) (f : FaultyStore) (ended : Except Halt Outcome × FaultyStore) :
    Prop where
  others : ∀ z, z ≠ entity → ended.2.store.riskRecord? z = f.store.riskRecord? z
  events : ∃ logged : List RiskEvent, logged.length = (outcomeOf ended.1).eventCreated.toNat ∧
    Store.Numbered f.store.events logged ended.2.store.events
  recommendations : ended.1 ≠ .error .word →
    ∃ added : List Recommendation, added.length = (outcomeOf ended.1).recommendations ∧
      Store.Numbered f.store.recommendations added ended.2.store.recommendations
  stored : ∀ o, ended.1 = .ok o → pass ≠ .recommendations →
    ∃ r, ended.2.store.riskRecord? entity = some r ∧ r.level.isHigh = o.highRisk
  unsuggested : pass ≠ .recommendations → (outcomeOf ended.1).recommendations = 0

variable {e : Engine} {pass : Pass} {entity : EntityRef} {f g : FaultyStore}

namespace Brings

/-- An attempt that stops before it has written more than the record of its entity. -/
theorem of_stop (cause : Halt) (hsame : Store.SameBut entity f.store g.store) :
    Brings pass entity f (.error cause, g) where
  others := hsame.others
  events := ⟨[], rfl, hsame.events.symm ▸ .nil _⟩
  recommendations _ := ⟨[], rfl, hsame.recommendations.symm ▸ .nil _⟩
  stored _ ho := nomatch ho
  unsuggested _ := rfl

/-- Work that follows a failed attempt. -/
theorem after_failure {error : RiskError} {ended : Except Halt Outcome × FaultyStore}
    (hfails : Brings pass entity f (.error (.failure error), g)) (hends : Brings pass entity g ended) :
    Brings pass entity f ended where
  others z hz := (hends.others z hz).trans (hfails.others z hz)
  events := by
    obtain ⟨none, hnone, hbefore⟩ := hfails.events
    obtain ⟨logged, hlength, hnumbered⟩ := hends.events
    exact ⟨none ++ logged, by simp_all [outcomeOf], hbefore.append hnumbered⟩
  recommendations hgoes := by
    obtain ⟨none, hnone, hbefore⟩ := hfails.recommendations nofun
    obtain ⟨added, hlength, hnumbered⟩ := hends.recommendations hgoes
    exact ⟨none ++ added, by simp_all [outcomeOf], hbefore.append hnumbered⟩
  stored := hends.stored
  unsuggested := hends.unsuggested

end Brings

theorem reassess_brings (e : Engine) (pass : Pass) (entity : EntityRef) (f : FaultyStore) :
    Brings pass entity f ((e.reassess entity).run f) := by
  have hreaches := e.reassess_reaches entity f
  generalize (e.reassess entity).run f = ended at hreaches ⊢
  cases hreaches with
  | stops cause hsame => exact .of_stop cause hsame
  | @settles v s _ hsame hentity hstored hsettles =>
      cases hsettles with
      | lacks hlacks =>
          exact ⟨hsame.others, ⟨[], rfl, hsame.events.symm ▸ .nil _⟩, fun hgoes => absurd rfl hgoes, by rintro _ ⟨⟩,
            fun _ => rfl⟩
      | @of_reconciles alert t logged g hreconciles hlogs =>
          have hrisk (z : EntityRef) : t.riskRecord? z = s.riskRecord? z := hreconciles.riskRecord? z
          have hevents : t.events = f.store.events := hreconciles.events.trans hsame.events
          have hrecommendations : t.recommendations = f.store.recommendations := by
            rw [← hsame.recommendations]
            rcases hreconciles.store with rfl | ⟨a, rfl⟩ <;> rfl
          -- What is left of an attempt after reconciling, where it changes no risk record and no suggestion.
          have hbrings {u : FaultyStore} {result : Except Halt Bool} (added : List RiskEvent)
              (hlength : added.length = (outcomeOf (result.map v.outcome)).eventCreated.toNat)
              (hurisk : ∀ z, u.store.riskRecord? z = t.riskRecord? z)
              (hurec : u.store.recommendations = t.recommendations)
              (huevents : Store.Numbered t.events added u.store.events) :
              Brings pass entity f (result.map v.outcome, u) := by
            have hunsuggested : (outcomeOf (result.map v.outcome)).recommendations = 0 := by cases result <;> rfl
            refine ⟨fun z hz => ?_, ⟨added, hlength, hevents ▸ huevents⟩, fun _ => ⟨[], hunsuggested.symm, ?_⟩,
              fun o ho _ => ?_, fun _ => hunsuggested⟩
            · rw [hurisk, hrisk, hsame.others z hz]
            · rw [hurec, hrecommendations]
              exact .nil _
            · refine ⟨v.record.next, ?_, ?_⟩
              · rw [hurisk, hrisk, hstored]
              · cases result with
                | error cause => cases ho
                | ok created =>
                    cases ho
                    rw [RiskRecord.level_next]
                    rfl
          cases hlogs with
          | idle hidle => exact hbrings [] rfl (fun z => rfl) rfl (.nil _)
          | waives halert howes htriggered =>
              exact hbrings [] rfl (fun z => Store.riskRecord?_putAlert ..) rfl (.nil _)
          | @logs a halert howes htriggered hfault hroom =>
              refine hbrings [.ofDraft ⟨Store.nextNumber t.events⟩ v.event] rfl (fun z => ?_) rfl (.one hroom rfl)
              rw [Store.logFor, Store.riskRecord?_putAlert]
              cases z <;> rfl
          | fails message halert howes htriggered hfault =>
              exact hbrings [] rfl (fun z => rfl) rfl (.nil _)
          | lacks halert howes htriggered hfault hfull => exact hbrings [] rfl (fun z => rfl) rfl (.nil _)

theorem recommend_brings (e : Engine) (entity : EntityRef) (f : FaultyStore) :
    Brings .recommendations entity f ((e.recommend entity).run f) := by
  have hsuggests := e.recommend_suggests entity f
  generalize (e.recommend entity).run f = ended at hsuggests ⊢
  cases hsuggests with
  | idle =>
      exact ⟨fun z _ => rfl, ⟨[], rfl, .nil _⟩, fun _ => ⟨[], rfl, .nil _⟩, fun o _ h => absurd rfl h, fun _ => rfl⟩
  | @stops id g error hstore =>
      refine .of_stop _ ?_
      rw [hstore]
      exact .refl (.part id) f.store
  | @adds id g hall hstore =>
      have hsame := f.store.sameBut_withRisk 0 (.part id)
      have hlength := (f.store.withRisk 0 (.part id)).length_suggestions (e.drafts f.store id)
      refine ⟨fun z hz => ?_, ⟨[], rfl, ?_⟩, fun _ => ⟨_, hlength, ?_⟩, fun o _ h => absurd rfl h,
        fun h => absurd rfl h⟩
      · rw [← hsame.others z hz, hstore, Store.foldl_suggest]
        cases z <;> rfl
      · rw [← hsame.events, hstore, Store.foldl_suggest]
        exact .nil _
      · rw [← hsame.recommendations, hstore]
        exact Store.numbered_suggestions hall
  | @lacks id g hstore =>
      have hsame := f.store.sameBut_withRisk 0 (.part id)
      refine ⟨fun z hz => ?_, ⟨[], rfl, ?_⟩, fun hgoes => absurd rfl hgoes, by rintro _ ⟨⟩, fun _ => rfl⟩
      · rw [← hsame.others z hz, hstore, Store.suggestMost_eq]
        cases z <;> rfl
      · rw [← hsame.events, hstore, Store.suggestMost_eq]
        exact .nil _

theorem work_brings (e : Engine) (pass : Pass) (entity : EntityRef) (f : FaultyStore) :
    Brings pass entity f ((e.work pass entity).run f) := by
  cases pass with
  | suppliers => exact e.reassess_brings .suppliers entity f
  | parts => exact e.reassess_brings .parts entity f
  | recommendations => exact e.recommend_brings entity f

/-- What holds of an attempt, and of work that follows a failed one, holds of repeated work. -/
theorem retrying_composes {α : Type} {p : RetryPolicy} {work : FaultyStore → Except Halt α × FaultyStore}
    {R : FaultyStore → Except Halt α × FaultyStore → Prop} (hwork : ∀ f, R f (work f))
    (hfollows : ∀ {f g : FaultyStore} {error : RiskError} {ended : Except Halt α × FaultyStore},
      R f (.error (.failure error), g) → R g ended → R f ended)
    (conflicts transients : Nat) (f : FaultyStore) : R f (retrying p work conflicts transients f) := by
  unfold retrying
  induction conflicts, transients, f using retryingUntil.induct p (fun _ => false) work with
  | case1 conflicts transients f e f' hrun hallows hlate => cases hlate
  | case2 conflicts transients f e f' hrun hallows hintime hconflict ih =>
      rw [retryingUntil_again hrun hallows hintime, if_pos hconflict]
      exact hfollows (hrun ▸ hwork f) ih
  | case3 conflicts transients f e f' hrun hallows hintime hconflict ih =>
      rw [retryingUntil_again hrun hallows hintime, if_neg hconflict]
      exact hfollows (hrun ▸ hwork f) ih
  | case4 conflicts transients f e f' hrun hallows =>
      rw [retryingUntil_refused hrun hallows]
      exact hwork f
  | case5 conflicts transients f hdone =>
      rw [retryingUntil_done hdone]
      exact hwork f

/-- What work on an entity brings about, it brings about however often it is repeated. -/
theorem retrying_brings (e : Engine) (pass : Pass) (entity : EntityRef) (f : FaultyStore) :
    Brings pass entity f (retrying e.config.retry (e.work pass entity).run 0 0 f) :=
  retrying_composes (e.work_brings pass entity) Brings.after_failure 0 0 f

end Engine

/-! ## Passes -/

/-- Which suppliers and parts are listed depends on the inventory alone, and which parts may get suggestions on
the records of parts. -/
theorem Pass.targets_congr {pass : Pass} {s t : Store} (hinventory : t.inventory = s.inventory)
    (hrecords : pass = .recommendations → t.partRisks = s.partRisks) : pass.targets t = pass.targets s := by
  have hsuppliers : t.suppliers = s.suppliers := congrArg Inventory.suppliers hinventory
  have hparts : t.parts = s.parts := congrArg Inventory.parts hinventory
  cases pass with
  | suppliers => simp only [targets, hsuppliers]
  | parts => simp only [targets, hparts]
  | recommendations => simp only [targets, hrecords rfl]

theorem Pass.part_of_mem_targets {pass : Pass} {s : Store} {z : EntityRef} (hmem : z ∈ pass.targets s)
    (hpass : pass = .recommendations) : ∃ id, z = .part id ∧ ∃ r, s.partRisks.find? id.value.toNat = some r := by
  subst hpass
  obtain ⟨r, hr, rfl⟩ := List.mem_map.1 hmem
  exact ⟨r.part, rfl, r, Roster.find?_eq_some_iff.2 ⟨(List.mem_filter.1 hr).1, rfl⟩⟩

/-- A part that has a record gets suggestions without any change to risk records. -/
theorem Engine.recommend_keepsRisks (e : Engine) {id : PartId} {f : FaultyStore}
    (hstored : ∃ r, f.store.partRisks.find? id.value.toNat = some r) :
    ((e.recommend (.part id)).run f).2.store.supplierRisks = f.store.supplierRisks ∧
      ((e.recommend (.part id)).run f).2.store.partRisks = f.store.partRisks := by
  obtain ⟨r, hr⟩ := hstored
  have hread : f.store.withRisk 0 (.part id) = f.store :=
    Store.withRisk_of_stored (r := .part r) (by rw [Store.riskRecord?, hr]; rfl)
  have hsuggests := e.recommend_suggests (.part id) f
  generalize (e.recommend (.part id)).run f = ended at hsuggests ⊢
  cases hsuggests with
  | stops error hstore => exact ⟨congrArg Store.supplierRisks hstore, congrArg Store.partRisks hstore⟩
  | adds hall hstore =>
      rw [hread, Store.foldl_suggest] at hstore
      exact ⟨hstore ▸ rfl, hstore ▸ rfl⟩
  | lacks hstore =>
      rw [hread, Store.suggestMost_eq] at hstore
      exact ⟨hstore ▸ rfl, hstore ▸ rfl⟩

namespace Engine

/-- What a pass leaves alone: the inventory, and for recommendations the risk records too. -/
theorem tour_frame (e : Engine) (pass : Pass) (targets : List EntityRef) (f : FaultyStore)
    (htargets : ∀ z ∈ targets, z ∈ pass.targets f.store) :
    ((e.tour pass targets).after f).store.inventory = f.store.inventory ∧
      (pass = .recommendations →
        ((e.tour pass targets).after f).store.supplierRisks = f.store.supplierRisks ∧
        ((e.tour pass targets).after f).store.partRisks = f.store.partRisks) := by
  refine ⟨?_, fun hpass => ?_⟩
  · exact e.tour_keeps pass (I := fun g => g.store.inventory = f.store.inventory) targets
      (fun z _ g hg => (e.inventory_work pass z g).trans hg) rfl
  · refine e.tour_keeps pass (I := fun g => g.store.supplierRisks = f.store.supplierRisks ∧
      g.store.partRisks = f.store.partRisks) targets (fun z hz g hg => ?_) ⟨rfl, rfl⟩
    obtain ⟨id, rfl, hstored⟩ := Pass.part_of_mem_targets (htargets z hz) hpass
    subst hpass
    have hkeeps := e.recommend_keepsRisks (f := g) (hg.2 ▸ hstored)
    exact ⟨hkeeps.1.trans hg.1, hkeeps.2.trans hg.2⟩

end Engine

end SupplyRisk
