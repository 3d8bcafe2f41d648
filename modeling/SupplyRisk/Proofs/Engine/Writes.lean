import SupplyRisk.Proofs.Engine.Settle
import SupplyRisk.Proofs.Store.Log

/-!
# What an attempt tells

An attempt to assess an entity that ends before its save changes nothing but the risk record of this entity, and one
that gets past its save settles its verdict on alerts and events (`reassess_reaches`).
-/

namespace SupplyRisk

namespace Store

/-- The stores differ in the risk record of one entity at most. -/
structure SameBut (entity : EntityRef) (s t : Store) : Prop where
  inventory : t.inventory = s.inventory
  others : ∀ z, z ≠ entity → t.riskRecord? z = s.riskRecord? z
  alerts : t.alerts = s.alerts
  recommendations : t.recommendations = s.recommendations
  events : t.events = s.events

variable {s t u : Store} {entity : EntityRef}

namespace SameBut

theorem refl (entity : EntityRef) (s : Store) : SameBut entity s s := ⟨rfl, fun _ _ => rfl, rfl, rfl, rfl⟩

theorem sameLog (hsame : SameBut entity s t) : s.SameLog t := ⟨hsame.alerts, hsame.events⟩

theorem trans (hst : SameBut entity s t) (htu : SameBut entity t u) : SameBut entity s u where
  inventory := htu.inventory.trans hst.inventory
  others z hz := (htu.others z hz).trans (hst.others z hz)
  alerts := htu.alerts.trans hst.alerts
  recommendations := htu.recommendations.trans hst.recommendations
  events := htu.events.trans hst.events

end SameBut

theorem sameBut_putRisk (s : Store) {r : RiskRecord} (hentity : r.entity = entity) :
    SameBut entity s (s.putRisk r) where
  inventory := s.inventory_putRisk r
  others z hz := by rw [riskRecord?_putRisk, if_neg (by rw [hentity]; exact hz.symm)]
  alerts := s.alerts_putRisk r
  recommendations := by cases r <;> rfl
  events := by cases r <;> rfl

theorem sameBut_bumpRisk (s : Store) (entity : EntityRef) : SameBut entity s (s.bumpRisk entity) := by
  cases hstored : s.riskRecord? entity with
  | none =>
      rw [bumpRisk_of_none hstored]
      exact .refl entity s
  | some r =>
      rw [bumpRisk_of_some hstored]
      exact s.sameBut_putRisk (by rw [RiskRecord.entity_next, entity_of_riskRecord? hstored])

theorem sameBut_withRisk (s : Store) (threshold : UInt8) (entity : EntityRef) :
    SameBut entity s (s.withRisk threshold entity) := by
  unfold withRisk
  split
  · exact s.sameBut_putRisk (s.entity_riskOrFresh threshold entity)
  · exact .refl entity s

theorem sameBut_race (f : FaultyStore) (entity : EntityRef) : SameBut entity f.store (f.race entity).store := by
  unfold FaultyStore.race FaultyStore.raceWriter
  split
  · exact f.store.sameBut_bumpRisk entity
  · exact .refl entity f.store

end Store

theorem Verdict.affects_event (v : Verdict) : v.event.Affects v.record.entity := by
  cases v with
  | supplier name category today record => exact mem_insertRow_self record.supplier []
  | part history today record => exact mem_insertRow_self record.part []

namespace Engine

/-- What an attempt to assess an entity does to alerts and events. -/
inductive Writes (e : Engine) (entity : EntityRef) (f : FaultyStore) :
    Except Halt Outcome × FaultyStore → Prop
  /-- It stops before its save. -/
  | nothing (cause : Halt) {g : FaultyStore} (hsame : f.store.SameLog g.store) :
      Writes e entity f (.error cause, g)
  | settles {v : Verdict} {s : Store} {ended : Except Halt Outcome × FaultyStore}
      (hsame : f.store.SameLog s) (hentity : v.record.entity = entity)
      (hstored : s.riskRecord? entity = some v.record.next)
      (hsettles : v.Settles e.now { f with store := s } ended) : Writes e entity f ended

/-- How an attempt to assess an entity goes: it stops before its save, or settles its verdict after it. -/
inductive Reaches (e : Engine) (entity : EntityRef) (f : FaultyStore) : Except Halt Outcome × FaultyStore → Prop
  | stops (cause : Halt) {g : FaultyStore} (hsame : Store.SameBut entity f.store g.store) :
      Reaches e entity f (.error cause, g)
  | settles {v : Verdict} {s : Store} {ended : Except Halt Outcome × FaultyStore}
      (hsame : Store.SameBut entity f.store s) (hentity : v.record.entity = entity)
      (hstored : s.riskRecord? entity = some v.record.next)
      (hsettles : v.Settles e.now { f with store := s } ended) : Reaches e entity f ended

variable {e : Engine} {entity : EntityRef} {f : FaultyStore}

theorem reassess_reaches (e : Engine) (entity : EntityRef) (f : FaultyStore) :
    e.Reaches entity f ((e.reassess entity).run f) := by
  have hreads : Store.SameBut entity f.store (e.afterReads f.store entity) := f.store.sameBut_withRisk _ entity
  have hrace := hreads.trans (Store.sameBut_race { f with store := e.afterReads f.store entity } entity)
  have hattempt := e.reassess_attempt entity f
  generalize (e.reassess entity).run f = ended at hattempt ⊢
  cases hattempt with
  | missing hfault => exact .stops _ (.refl entity f.store)
  | unreadable message hfault => exact .stops _ (.refl entity f.store)
  | stops hverdict hg =>
      rcases hg with rfl | rfl
      · exact .stops _ hreads
      · exact .stops _ hrace
  | worn hstored hfull hverdict => exact .stops _ ⟨hreads.inventory, hreads.others, hreads.alerts,
      hreads.recommendations, hreads.events⟩
  | overtaken expected found hverdict hfault => exact .stops _ hrace
  | @saved v hverdict hfault =>
      have hentity : v.record.next.entity = entity := by
        rw [RiskRecord.entity_next, (verdict_eq_ok hverdict).1]
      refine .settles (hreads.trans (Store.sameBut_putRisk _ hentity)) (verdict_eq_ok hverdict).1 ?_
        (v.settle_settles e.now _)
      rw [Store.riskRecord?_putRisk, if_pos hentity]

theorem reassess_writes (e : Engine) (entity : EntityRef) (f : FaultyStore) :
    e.Writes entity f ((e.reassess entity).run f) := by
  have hreaches := e.reassess_reaches entity f
  generalize (e.reassess entity).run f = ended at hreaches ⊢
  cases hreaches with
  | stops cause hsame => exact .nothing cause hsame.sameLog
  | settles hsame hentity hstored hsettles => exact .settles hsame.sameLog hentity hstored hsettles

end Engine

end SupplyRisk
