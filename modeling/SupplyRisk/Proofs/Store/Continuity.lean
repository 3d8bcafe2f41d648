import SupplyRisk.Proofs.Pool
import SupplyRisk.Proofs.Store.Inventory
import SupplyRisk.Proofs.Store.Numbered
import SupplyRisk.Proofs.Store.Write

/-!
# Stores that go on

A store only ever grows: whatever is called, nothing is removed from it, new rows get greater numbers than the old
ones, a risk record is replaced only by one of a higher version, an event changes in its resolution only, and of the
inventory only the low-stock thresholds of parts change.  `Store.Continues` says so of two stores.  Each call of a script leads from a store to one
that goes on from it, since it is made only while numbers and versions are left for it
(`FaultyStore.continues_perform`), and so does a call that is given up (`FaultyStore.continues_giveUp`).  So the store
goes on whatever scripts play on it, in whatever order their calls come (`ScriptPool.continues_run`).
-/

namespace SupplyRisk

open Ranked (rank)

/-! ## Rosters that grow -/

/-- The rows of the first roster are all there in the second one, changed as `R` allows, and its other rows have greater
ranks. -/
structure Roster.Grows {α : Type} [Ranked α] (R : α → α → Prop) (old new : Roster α) : Prop where
  kept : ∀ a ∈ old.rows, ∃ b ∈ new.rows, rank b = rank a ∧ R a b
  fresh : ∀ b ∈ new.rows, (∃ a ∈ old.rows, rank a = rank b) ∨ ∀ a ∈ old.rows, rank a < rank b

namespace Roster.Grows

variable {α : Type} [Ranked α] {R R' R'' : α → α → Prop} {r s t : Roster α} {a b : α}

theorem refl (hR : ∀ a, R a a) (r : Roster α) : r.Grows R r where
  kept a ha := ⟨a, ha, rfl, hR a⟩
  fresh b hb := .inl ⟨b, hb, rfl⟩

theorem trans (hR : ∀ a b c, R a b → R' b c → R'' a c) (hrs : r.Grows R s) (hst : s.Grows R' t) : r.Grows R'' t where
  kept a ha := by
    obtain ⟨b, hb, hrank, hab⟩ := hrs.kept a ha
    obtain ⟨c, hc, hrank', hbc⟩ := hst.kept b hb
    exact ⟨c, hc, hrank'.trans hrank, hR a b c hab hbc⟩
  fresh c hc := by
    rcases hst.fresh c hc with ⟨b, hb, hrank⟩ | habove
    · rw [← hrank]
      exact hrs.fresh b hb
    · -- Every old row is still there in between, below the new one.
      refine .inr fun a ha => ?_
      obtain ⟨b, hb, hrank, -⟩ := hrs.kept a ha
      rw [← hrank]
      exact habove b hb

theorem mono (hR : ∀ a b, R a b → R' a b) (hrs : r.Grows R s) : r.Grows R' s where
  kept a ha := by
    obtain ⟨b, hb, hrank, hab⟩ := hrs.kept a ha
    exact ⟨b, hb, hrank, hR a b hab⟩
  fresh := hrs.fresh

/-- A row with the next number comes in. -/
theorem insert_next (hR : ∀ a, R a a) (hnext : rank a = (Store.nextNumber r).toNat)
    (hfit : ∀ b ∈ r.rows, rank b + 1 < Word.count64) : r.Grows R (r.insert a) where
  kept b hb := by
    have hlt : rank b < rank a := hnext ▸ Store.lt_nextNumber hb hfit
    exact ⟨b, Roster.mem_insert_iff.2 (.inr ⟨hb, by omega⟩), rfl, hR b⟩
  fresh b hb := by
    rcases Roster.mem_insert_iff.1 hb with rfl | ⟨hb, -⟩
    · exact .inr fun c hc => hnext ▸ Store.lt_nextNumber hc hfit
    · exact .inl ⟨b, hb, rfl⟩

/-- A row takes the place of one of its rank. -/
theorem insert_over (hR : ∀ a, R a a) (hb : b ∈ r.rows) (hrank : rank a = rank b) (hba : R b a) :
    r.Grows R (r.insert a) where
  kept c hc := by
    by_cases hsame : rank c = rank a
    · obtain rfl := Roster.eq_of_rank_eq hc hb (hsame.trans hrank)
      exact ⟨a, mem_insertRow_self a r.rows, hrank, hba⟩
    · exact ⟨c, Roster.mem_insert_iff.2 (.inr ⟨hc, hsame⟩), rfl, hR c⟩
  fresh c hc := by
    rcases Roster.mem_insert_iff.1 hc with rfl | ⟨hc, -⟩
    · exact .inl ⟨b, hb, hrank.symm⟩
    · exact .inl ⟨c, hc, rfl⟩

end Roster.Grows

/-! ## Events -/

theorem EventId.toNat_inj {i j : EventId} : i.value.toNat = j.value.toNat ↔ i = j := by
  constructor
  · intro h
    exact congrArg EventId.mk (UInt64.toNat_inj.1 h)
  · rintro rfl
    rfl

/-- What can become of an event: only its resolution changes, it stays resolved, and it keeps the date of its first
resolution. -/
structure RiskEvent.Becomes (a b : RiskEvent) : Prop where
  same : { b with resolved := a.resolved, resolutionDate := a.resolutionDate, resolutionNotes := a.resolutionNotes } = a
  resolved : a.resolved = true → b.resolved = true ∧ b.resolutionDate = a.resolutionDate

namespace RiskEvent.Becomes

theorem refl (a : RiskEvent) : a.Becomes a := ⟨rfl, fun h => ⟨h, rfl⟩⟩

theorem trans {a b c : RiskEvent} (hab : a.Becomes b) (hbc : b.Becomes c) : a.Becomes c where
  same := by
    have hab' := hab.same
    rw [← hbc.same] at hab'
    exact hab'
  resolved h := by
    obtain ⟨hb, hdate⟩ := hab.resolved h
    obtain ⟨hc, hdate'⟩ := hbc.resolved hb
    exact ⟨hc, hdate'.trans hdate⟩

theorem resolve (a : RiskEvent) (notes : String) (on : Date) : a.Becomes (a.resolve notes on) where
  same := rfl
  resolved h := ⟨rfl, if_pos h⟩

theorem affects {a b : RiskEvent} (hab : a.Becomes b) {z : EntityRef} : b.Affects z ↔ a.Affects z := by
  rw [← hab.same]
  cases z <;> exact Iff.rfl

end RiskEvent.Becomes

/-! ## Stores -/

/-- The part without its low-stock threshold. -/
def Part.unthresholded (p : Part) : Part := { p with lowStockThreshold := none }

namespace Store

/-- The second store goes on from the first one: nothing is lost, and what is new is counted on. -/
structure Continues (s t : Store) : Prop where
  suppliers : t.suppliers = s.suppliers
  parts : t.parts.rows.map Part.unthresholded = s.parts.rows.map Part.unthresholded
  links : t.links = s.links
  orderLines : t.orderLines = s.orderLines
  stockItems : t.stockItems = s.stockItems
  risks : ∀ entity r, s.riskRecord? entity = some r →
    ∃ r', t.riskRecord? entity = some r' ∧ (r' = r ∨ r.version < r'.version)
  alerts : s.alerts.Grows (fun _ _ => True) t.alerts
  recommendations : s.recommendations.Grows (fun _ _ => True) t.recommendations
  events : s.events.Grows RiskEvent.Becomes t.events

namespace Continues

variable {s t u : Store}

theorem refl (s : Store) : s.Continues s where
  suppliers := rfl
  parts := rfl
  links := rfl
  orderLines := rfl
  stockItems := rfl
  risks _ r hr := ⟨r, hr, .inl rfl⟩
  alerts := .refl (fun _ => trivial) _
  recommendations := .refl (fun _ => trivial) _
  events := .refl RiskEvent.Becomes.refl _

theorem trans (hst : s.Continues t) (htu : t.Continues u) : s.Continues u where
  suppliers := htu.suppliers.trans hst.suppliers
  parts := htu.parts.trans hst.parts
  links := htu.links.trans hst.links
  orderLines := htu.orderLines.trans hst.orderLines
  stockItems := htu.stockItems.trans hst.stockItems
  risks entity r hr := by
    obtain ⟨r', hr', hkept⟩ := hst.risks entity r hr
    obtain ⟨r'', hr'', hkept'⟩ := htu.risks entity r' hr'
    refine ⟨r'', hr'', ?_⟩
    rcases hkept with rfl | hlt
    · exact hkept'
    · rcases hkept' with rfl | hlt'
      · exact .inr hlt
      · exact .inr (UInt64.lt_trans hlt hlt')
  alerts := hst.alerts.trans (fun _ _ _ _ _ => trivial) htu.alerts
  recommendations := hst.recommendations.trans (fun _ _ _ _ _ => trivial) htu.recommendations
  events := hst.events.trans (fun _ _ _ hab hbc => hab.trans hbc) htu.events

end Continues

variable {s t : Store} {r : RiskRecord}

/-! ## Single writes -/

theorem continues_putRisk (hversion : ∀ r', s.riskRecord? r.entity = some r' → r'.version < r.version) :
    s.Continues (s.putRisk r) := by
  have hrisks : ∀ entity r', s.riskRecord? entity = some r' →
      ∃ r'', (s.putRisk r).riskRecord? entity = some r'' ∧ (r'' = r' ∨ r'.version < r''.version) := by
    intro entity r' hr'
    rw [riskRecord?_putRisk]
    split
    · rename_i hentity
      subst hentity
      exact ⟨r, rfl, .inr (hversion r' hr')⟩
    · exact ⟨r', hr', .inl rfl⟩
  cases r <;> exact { Continues.refl s with risks := hrisks }

/-- A record whose version is raised. -/
theorem continues_putRisk_next (hnext : Word.hasNext r.version = true)
    (hstored : ∀ r', s.riskRecord? r.entity = some r' → r'.version = r.version) : s.Continues (s.putRisk r.next) := by
  refine continues_putRisk fun r' hr' => ?_
  rw [RiskRecord.entity_next] at hr'
  have hlt := RiskRecord.toNat_version_next (of_decide_eq_true hnext)
  rw [UInt64.lt_iff_toNat_lt, hstored r' hr', hlt]
  omega

/-- The threshold of a part is all of the inventory that a call can change. -/
theorem continues_addPart {part : Part} (threshold : Option UInt32) (hstored : part ∈ s.parts.rows) :
    s.Continues (s.addPart { part with lowStockThreshold := threshold }) := by
  have hparts : (s.parts.insert { part with lowStockThreshold := threshold }).rows.map Part.unthresholded =
      s.parts.rows.map Part.unthresholded := by
    have hmem : ∃ p ∈ s.parts.rows, rank p = rank { part with lowStockThreshold := threshold } := ⟨part, hstored, rfl⟩
    rw [Roster.rows_insert_of_mem hmem, List.map_map]
    refine List.map_congr_left fun p hp => ?_
    show Part.unthresholded (if rank p = rank part then _ else p) = _
    split
    · rename_i hrank
      rw [Roster.eq_of_rank_eq hp hstored hrank]
      rfl
    · rfl
  exact { Continues.refl s with parts := hparts }

/-- Whatever is called, the store goes on. -/
theorem Effect.continues {c : StoreCall} (hnumber : s.hasNumberFor c = true) (heffect : s.Effect c t) :
    s.Continues t := by
  cases heffect with
  | nothing hreads => exact .refl s
  | stockThreshold threshold hfind => exact continues_addPart threshold (Roster.find?_eq_some_iff.1 hfind).1
  | @newSupplierRisk id threshold habsent hknown =>
      refine continues_putRisk (r := .supplier (.new id threshold)) fun r' hr' => ?_
      have hnone : s.riskRecord? (.supplier id) = none := by rw [riskRecord?, habsent]; rfl
      exact absurd (hnone.symm.trans hr') (by simp)
  | @supplierRisk record hcheck hversion =>
      refine continues_putRisk_next (r := .supplier record) hnumber fun r' hr' => ?_
      obtain ⟨stored, hfind, rfl⟩ := Option.map_eq_some_iff.1 hr'
      rw [hfind] at hversion
      exact hversion
  | @newPartRisk id habsent hknown =>
      refine continues_putRisk (r := .part (.new id)) fun r' hr' => ?_
      have hnone : s.riskRecord? (.part id) = none := by rw [riskRecord?, habsent]; rfl
      exact absurd (hnone.symm.trans hr') (by simp)
  | @partRisk record hcheck hversion =>
      refine continues_putRisk_next (r := .part record) hnumber fun r' hr' => ?_
      obtain ⟨stored, hfind, rfl⟩ := Option.map_eq_some_iff.1 hr'
      rw [hfind] at hversion
      exact hversion
  | newAlert hnone =>
      exact { Continues.refl s with
        alerts := .insert_next (fun _ => trivial) rfl (hasNext_iff.1 hnumber) }
  | @alert alert hknown hrival =>
      obtain ⟨a, hfind⟩ := Roster.contains_iff.1 hknown
      obtain ⟨hmem, hrank⟩ := Roster.find?_eq_some_iff.1 hfind
      exact { Continues.refl s with alerts := .insert_over (fun _ => trivial) hmem hrank.symm trivial }
  | newRecommendation hcheck hfresh =>
      exact { Continues.refl s with
        recommendations := .insert_next (fun _ => trivial) rfl (hasNext_iff.1 hnumber) }
  | recommendation hknown =>
      obtain ⟨a, hfind⟩ := Roster.contains_iff.1 hknown
      obtain ⟨hmem, hrank⟩ := Roster.find?_eq_some_iff.1 hfind
      exact { Continues.refl s with recommendations := .insert_over (fun _ => trivial) hmem hrank.symm trivial }
  | newEvent draft =>
      exact { Continues.refl s with events := .insert_next RiskEvent.Becomes.refl rfl (hasNext_iff.1 hnumber) }
  | event notes on hfind =>
      obtain ⟨hmem, hrank⟩ := Roster.find?_eq_some_iff.1 hfind
      exact { Continues.refl s with
        events := .insert_over RiskEvent.Becomes.refl hmem rfl (RiskEvent.Becomes.resolve _ notes on) }

/-! ## What calls cannot break -/

/-- What putting risk records cannot break, and neither can these calls, is stable. -/
theorem Stable.of_putRisk {ok : StoreCall → Prop} {P : Store → Prop}
    (heffect : ∀ {s s' : Store} {c : StoreCall}, ok c → s.Effect c s' → P s → P s')
    (hput : ∀ (s : Store) (r : RiskRecord), P s → P (s.putRisk r)) : Stable ok P := by
  have hbump (s : Store) (entity : EntityRef) (h : P s) : P (s.bumpRisk entity) := by
    rcases s.bumpRisk_cases entity with hsame | ⟨r, -, hbump⟩
    · rwa [hsame]
    · rw [hbump]
      exact hput s r.next h
  exact ⟨heffect, fun s id => hbump s (.supplier id), fun s id => hbump s (.part id)⟩

end Store

/-! ## Calls and scripts -/

namespace FaultyStore

variable {f : FaultyStore} {c : StoreCall}

/-- Another writer raises a version only while there is a next one. -/
theorem continues_raced (hrace : f.raceFits c = true) : f.store.Continues (f.raced c).store := by
  rcases f.raced_cases c with hsame | ⟨r, hstored, hnext, hput⟩
  · rw [hsame]
    exact .refl f.store
  · rw [hput]
    refine Store.continues_putRisk_next (hnext hrace) fun r' hr' => ?_
    cases hstored.symm.trans hr'
    rfl

/-- A call that is made leaves what the other writer has left, or has written to that with the numbers there are. -/
theorem perform_step (hroom : f.hasRoom c = true) :
    (f.perform c).2.store = (f.raced c).store ∨
      (f.raced c).store.hasNumberFor c = true ∧ (f.raced c).store.Effect c (f.perform c).2.store := by
  cases hperform : f.perform c with
  | mk result g =>
      cases result with
      | error e => exact .inl (store_of_perform_error hperform)
      | ok answer =>
          have hnumber := (hasRoom_cases hroom).2.resolve_right fun ⟨e, he⟩ =>
            nomatch he.symm.trans (congrArg Prod.fst hperform)
          exact .inr ⟨hnumber, Store.perform_effect (perform_eq_ok hperform)⟩

theorem continues_perform (hroom : f.hasRoom c = true) : f.store.Continues (f.perform c).2.store := by
  refine (continues_raced (hasRoom_cases hroom).1).trans ?_
  rcases perform_step hroom with hsame | ⟨hnumber, heffect⟩
  · rw [hsame]
    exact .refl _
  · exact heffect.continues hnumber

theorem continues_giveUp (f : FaultyStore) (c : StoreCall) : f.store.Continues (f.giveUp c).store := by
  unfold giveUp
  split
  · rename_i hrace
    exact continues_raced hrace
  · exact .refl f.store

end FaultyStore

namespace ScriptPool

variable {p : ScriptPool}

theorem continues_step (p : ScriptPool) (i : Nat) : p.store.Continues (p.step i).store := by
  rcases p.step_cases i with ⟨hsame, -⟩ | ⟨c, next, -, hroom, -, hstep⟩ | ⟨c, next, -, -, -, hstep⟩
  · rw [hsame]
    exact .refl p.store
  · rw [hstep]
    exact FaultyStore.continues_perform hroom
  · rw [hstep]
    exact p.backend.continues_giveUp c

/-- Whatever scripts play and in whatever order, the store goes on. -/
theorem continues_run (p : ScriptPool) (schedule : List Nat) : p.store.Continues (p.run schedule).store := by
  induction schedule generalizing p with
  | nil => exact .refl p.store
  | cons i schedule ih => exact (p.continues_step i).trans (ih (p.step i))

end ScriptPool

end SupplyRisk
