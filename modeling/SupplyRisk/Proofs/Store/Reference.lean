import SupplyRisk.Proofs.Store.Continuity

/-!
# What rows refer to

The rows of a store refer to suppliers and parts by number, and alerts refer to events.  `Store.RefersWithin` says
that all entities referred to are among those of `K`, and that the event of an alert is stored and affects the alert's
entity.  Whether a call breaks this depends on what the caller writes (`StoreCall.RefersWithin`), so it is no matter
for `Store.Stable`: what a caller may write, it learns from earlier answers.  No other call breaks it
(`FaultyStore.contained_perform`), and nothing here asks whether links refer to anything.
-/

namespace SupplyRisk

open Ranked (rank)

/-! ## References -/

/-- The event of the alert, if it has one, is stored and affects the entity of the alert. -/
def Alert.ExplainedBy (events : Roster RiskEvent) (a : Alert) : Prop :=
  ∀ id, a.event = some id → ∃ event ∈ events.rows, event.id = id ∧ event.Affects a.entity

theorem Alert.ExplainedBy.grow {old new : Roster RiskEvent} {a : Alert} (hexplained : a.ExplainedBy old)
    (hgrows : old.Grows RiskEvent.Becomes new) : a.ExplainedBy new := by
  intro id hid
  obtain ⟨event, hmem, rfl, haffects⟩ := hexplained id hid
  obtain ⟨event', hmem', hrank, hbecomes⟩ := hgrows.kept event hmem
  refine ⟨event', hmem', EventId.toNat_inj.1 hrank, ?_⟩
  exact hbecomes.affects.2 haffects

/-- The part and the suppliers of a suggestion are in `K`. -/
structure Suggestion.Within (K : EntityRef → Prop) (part : PartId) (suggested : SupplierId)
    (primary : Option SupplierId) :
    Prop where
  part : K (.part part)
  suggested : K (.supplier suggested)
  primary : ∀ id, primary = some id → K (.supplier id)

/-- The records, alerts, suggestions and events of the store refer to entities in `K`, and alerts to stored events. -/
structure Store.RefersWithin (K : EntityRef → Prop) (s : Store) : Prop where
  supplierRisks : ∀ r ∈ s.supplierRisks.rows, K (.supplier r.supplier)
  partRisks : ∀ r ∈ s.partRisks.rows, K (.part r.part)
  alerts : ∀ a ∈ s.alerts.rows, K a.entity
  alertEvents : ∀ a ∈ s.alerts.rows, a.ExplainedBy s.events
  recommendations : ∀ r ∈ s.recommendations.rows, Suggestion.Within K r.part r.suggestedSupplier r.primarySupplier
  events : ∀ event ∈ s.events.rows, ∀ z, event.Affects z → K z

/-- What the call writes refers to entities in `K` and to these events. -/
def StoreCall.RefersWithin (K : EntityRef → Prop) (events : Roster RiskEvent) : StoreCall → Prop
  | saveSupplierRisk r => K (.supplier r.supplier)
  | savePartRisk r => K (.part r.part)
  | insertAlert d => K d.entity
  | updateAlert a => K a.entity ∧ a.ExplainedBy events
  | insertRecommendation d => Suggestion.Within K d.part d.suggestedSupplier d.primarySupplier
  | updateRecommendation r => Suggestion.Within K r.part r.suggestedSupplier r.primarySupplier
  | insertEvent d => ∀ z, d.Affects z → K z
  | _ => True

/-! ## Single calls -/

namespace Store

variable {K : EntityRef → Prop} {s t : Store} {c : StoreCall}

/-- No call changes which suppliers and parts there are. -/
theorem knows_stable (s : Store) : Stable (fun _ => True) (fun t => ∀ z, t.knows z = s.knows z) := by
  refine .of_putRisk (fun {t t' c} _ heffect hsame => ?_) fun t r hsame z => ?_
  · cases heffect with
    | @stockThreshold id part threshold hfind =>
        intro z
        rw [← hsame z]
        cases z with
        | supplier supplier => rfl
        | part other =>
            -- A part stands in for the one of its number.
            show ((t.parts.insert _).find? _).isSome = (t.parts.find? _).isSome
            rw [Roster.find?_insert]
            split
            · rename_i hrank
              have hother : t.parts.find? other.value.toNat = some part :=
                Roster.find?_eq_some_iff.2 ⟨(Roster.find?_eq_some_iff.1 hfind).1, hrank⟩
              rw [hother]
              rfl
            · rfl
    | _ => exact hsame
  · rw [← hsame z]
    exact knows_congr (t.inventory_putRisk r) z

/-- A call that refers to the right things leaves a store that does. -/
theorem Effect.refersWithin (heffect : s.Effect c t) (hnumber : s.hasNumberFor c = true)
    (hK : ∀ z, s.knows z = true → K z) (hcall : c.RefersWithin K s.events) (hs : s.RefersWithin K) :
    t.RefersWithin K := by
  cases heffect with
  | nothing hreads => exact hs
  | stockThreshold threshold hfind => exact { hs with }
  | @newSupplierRisk id threshold habsent hknown =>
      exact { hs with supplierRisks := Roster.forall_mem_insert (hK (.supplier id) hknown) hs.supplierRisks }
  | supplierRisk hcheck hversion =>
      exact { hs with supplierRisks := Roster.forall_mem_insert hcall hs.supplierRisks }
  | @newPartRisk id habsent hknown =>
      exact { hs with partRisks := Roster.forall_mem_insert (hK (.part id) hknown) hs.partRisks }
  | partRisk hcheck hversion => exact { hs with partRisks := Roster.forall_mem_insert hcall hs.partRisks }
  | @newAlert draft hnone =>
      -- An alert opens without an event.
      have hnew : (Alert.ofDraft ⟨nextNumber s.alerts⟩ draft).ExplainedBy s.events := fun id hid => by cases hid
      exact { hs with
        alerts := Roster.forall_mem_insert hcall hs.alerts
        alertEvents := Roster.forall_mem_insert hnew hs.alertEvents }
  | alert hknown hrival =>
      exact { hs with
        alerts := Roster.forall_mem_insert hcall.1 hs.alerts
        alertEvents := Roster.forall_mem_insert hcall.2 hs.alertEvents }
  | newRecommendation hcheck hfresh =>
      exact { hs with recommendations := Roster.forall_mem_insert hcall hs.recommendations }
  | recommendation hknown =>
      exact { hs with recommendations := Roster.forall_mem_insert hcall hs.recommendations }
  | newEvent draft =>
      have hgrows : s.events.Grows RiskEvent.Becomes (s.insertEvent draft).2.events :=
        .insert_next RiskEvent.Becomes.refl rfl (hasNext_iff.1 hnumber)
      have hnew : ∀ z, (RiskEvent.ofDraft ⟨nextNumber s.events⟩ draft).Affects z → K z :=
        fun z haffects => hcall z (RiskEvent.affects_ofDraft.1 haffects)
      exact { hs with
        alertEvents := fun a ha => (hs.alertEvents a ha).grow hgrows
        events := Roster.forall_mem_insert hnew hs.events }
  | @event id event notes on hfind =>
      obtain ⟨hstored, -⟩ := Roster.find?_eq_some_iff.1 hfind
      have hbecomes := RiskEvent.Becomes.resolve event notes on
      have hgrows : s.events.Grows RiskEvent.Becomes (s.events.insert (event.resolve notes on)) :=
        .insert_over RiskEvent.Becomes.refl hstored rfl hbecomes
      have hresolved : ∀ z, (event.resolve notes on).Affects z → K z :=
        fun z haffects => hs.events event hstored z (hbecomes.affects.1 haffects)
      exact { hs with
        alertEvents := fun a ha => (hs.alertEvents a ha).grow hgrows
        events := Roster.forall_mem_insert hresolved hs.events }

theorem putRisk_refersWithin {r : RiskRecord} (hs : s.RefersWithin K) (hr : K r.entity) :
    (s.putRisk r).RefersWithin K := by
  cases r with
  | supplier r => exact { hs with supplierRisks := Roster.forall_mem_insert hr hs.supplierRisks }
  | part r => exact { hs with partRisks := Roster.forall_mem_insert hr hs.partRisks }

theorem RefersWithin.entity_of_stored (hs : s.RefersWithin K) {z : EntityRef} {r : RiskRecord}
    (hstored : s.riskRecord? z = some r) : K r.entity := by
  cases z with
  | supplier id =>
      obtain ⟨record, hfind, rfl⟩ := Option.map_eq_some_iff.1 hstored
      exact hs.supplierRisks record (Roster.find?_eq_some_iff.1 hfind).1
  | part id =>
      obtain ⟨record, hfind, rfl⟩ := Option.map_eq_some_iff.1 hstored
      exact hs.partRisks record (Roster.find?_eq_some_iff.1 hfind).1

/-- The inventory has exactly the entities in `K`, and nothing else is referred to. -/
structure Contained (K : EntityRef → Prop) (s : Store) : Prop where
  knows : ∀ z, s.knows z = true ↔ K z
  refers : s.RefersWithin K

theorem Effect.contained (heffect : s.Effect c t) (hnumber : s.hasNumberFor c = true)
    (hcall : c.RefersWithin K s.events) (hs : s.Contained K) : t.Contained K where
  knows z := by
    rw [(knows_stable s).effect trivial heffect (fun _ => rfl) z]
    exact hs.knows z
  refers := heffect.refersWithin hnumber (fun z => (hs.knows z).1) hcall hs.refers

end Store

namespace FaultyStore

variable {K : EntityRef → Prop} {f g : FaultyStore} {c : StoreCall}

/-- What the store inside refers to is in `K`, which is what the inventory has. -/
def Contained (K : EntityRef → Prop) (f : FaultyStore) : Prop := f.store.Contained K

/-- The save of another writer changes neither events nor references. -/
theorem contained_raced (h : f.Contained K) (c : StoreCall) :
    (f.raced c).store.Contained K ∧ (f.raced c).store.events = f.store.events := by
  rcases f.raced_cases c with hsame | ⟨r, hstored, -, hput⟩
  · rw [hsame]
    exact ⟨h, rfl⟩
  · have hentity : K r.next.entity := r.entity_next.symm ▸ h.refers.entity_of_stored hstored
    rw [hput]
    refine ⟨⟨fun z => ?_, Store.putRisk_refersWithin h.refers hentity⟩, by cases r <;> rfl⟩
    rw [Store.knows_congr (f.store.inventory_putRisk r.next) z]
    exact h.knows z

/-- A call that refers to the right things leaves a store that does, whatever the faults. -/
theorem contained_perform (h : f.Contained K) (hroom : f.hasRoom c = true)
    (hcall : c.RefersWithin K f.store.events) : (f.perform c).2.Contained K := by
  obtain ⟨hraced, hevents⟩ := contained_raced h c
  rcases f.perform_step hroom with hsame | ⟨hnumber, heffect⟩
  · show (f.perform c).2.store.Contained K
    rwa [hsame]
  · exact heffect.contained hnumber (hevents.symm ▸ hcall) hraced

theorem contained_giveUp (h : f.Contained K) (c : StoreCall) : (f.giveUp c).Contained K := by
  unfold giveUp
  split
  · exact (contained_raced h c).1
  · exact h

end FaultyStore

end SupplyRisk
