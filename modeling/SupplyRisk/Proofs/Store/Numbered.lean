import SupplyRisk.Proofs.Store.Log

/-!
# Rows under next numbers

Alerts, suggestions and events that are new get the number after the greatest one.  `Store.Numbered` follows rows
that come in this way one after the other, each while there is a next number; so they stand behind all others
(`Numbered.rows`).  How many can come in is a matter of the greatest number (`Roster.HasRoom`).
-/

namespace SupplyRisk

/-! ## Room for new numbers -/

/-- There are so many numbers above all that the roster has. -/
structure Roster.HasRoom {α : Type} [Ranked α] (r : Roster α) (count : Nat) : Prop where
  fits : count < Word.count64
  above : ∀ a ∈ r.rows, Ranked.rank a + count < Word.count64

theorem Store.nextNumber_pos {α : Type} [Ranked α] {r : Roster α} (hroom : hasNext r = true) :
    0 < (nextNumber r).toNat := by
  unfold nextNumber
  cases hlast : r.lastRank? with
  | none => decide
  | some n =>
      rw [hasNext, hlast] at hroom
      have hlt : n + 1 < 2 ^ 64 := of_decide_eq_true hroom
      show 0 < (UInt64.ofNat (n + 1)).toNat
      rw [UInt64.toNat_ofNat', Nat.mod_eq_of_lt hlt]
      omega

namespace Roster.HasRoom

variable {α : Type} [Ranked α] {r t : Roster α} {a : α} {count : Nat}

/-- There is always room for no new number. -/
theorem zero (hwords : ∀ a ∈ r.rows, Ranked.rank a < Word.count64) : r.HasRoom 0 := ⟨by decide, hwords⟩

/-- There was room below a roster that goes on from it. -/
theorem of_holds (hroom : r.HasRoom count) (hholds : r.Holds t) : t.HasRoom count where
  fits := hroom.fits
  above b hb := by
    obtain ⟨a, ha, hrank⟩ := hholds b hb
    exact hrank ▸ hroom.above a ha

/-- One number more is left as long as there is a next one, and the others above it. -/
theorem succ_iff (hnext : Ranked.rank a = (Store.nextNumber r).toNat) :
    r.HasRoom (count + 1) ↔ Store.hasNext r = true ∧ (r.insert a).HasRoom count := by
  constructor
  · rintro ⟨hfits, habove⟩
    have hnumber : (Store.nextNumber r).toNat ≤ Word.count64 - count - 2 + 1 :=
      Store.nextNumber_le fun b hb => by have := habove b hb; omega
    refine ⟨Store.hasNext_iff.2 fun b hb => by have := habove b hb; omega, by omega, fun b hb => ?_⟩
    rcases Roster.mem_insert_iff.1 hb with rfl | ⟨hb, -⟩
    · omega
    · have := habove b hb
      omega
  · rintro ⟨hroom, -, habove⟩
    have hlast := habove a (mem_insertRow_self a r.rows)
    refine ⟨?_, fun b hb => ?_⟩
    · have := Store.nextNumber_pos hroom
      omega
    · have := Store.lt_nextNumber hb (Store.hasNext_iff.1 hroom)
      omega

/-- A row over another one takes no number. -/
theorem insert_iff (hmem : ∃ b ∈ r.rows, Ranked.rank b = Ranked.rank a) :
    (r.insert a).HasRoom count ↔ r.HasRoom count := by
  refine ⟨fun hroom => hroom.of_holds ((Holds.refl r).insert a), fun hroom => hroom.of_holds fun b hb => ?_⟩
  rcases Roster.mem_insert_iff.1 hb with rfl | ⟨hb, -⟩
  · exact hmem
  · exact ⟨b, hb, rfl⟩

end Roster.HasRoom

/-! ## Rows that come in -/

namespace Store

/-- From the first roster to the second one these rows have come in, each under the next number. -/
inductive Numbered {α : Type} [Ranked α] : Roster α → List α → Roster α → Prop
  | nil (r : Roster α) : Numbered r [] r
  | cons {r t : Roster α} {a : α} {added : List α} (hroom : hasNext r = true)
      (hnext : Ranked.rank a = (nextNumber r).toNat) (hrest : Numbered (r.insert a) added t) : Numbered r (a :: added) t

namespace Numbered

variable {α : Type} [Ranked α] {r s t : Roster α} {a : α} {added more : List α}

theorem one (hroom : hasNext r = true) (hnext : Ranked.rank a = (nextNumber r).toNat) : Numbered r [a] (r.insert a) :=
  .cons hroom hnext (.nil _)

theorem append (hadded : Numbered r added s) (hmore : Numbered s more t) : Numbered r (added ++ more) t := by
  induction hadded with
  | nil r => exact hmore
  | cons hroom hnext hrest ih => exact .cons hroom hnext (ih hmore)

/-- The new rows stand behind the old ones. -/
theorem rows (hadded : Numbered r added t) : t.rows = r.rows ++ added := by
  induction hadded with
  | nil r => exact (List.append_nil _).symm
  | cons hroom hnext hrest ih =>
      rw [ih, rows_insert_of_next hnext (hasNext_iff.1 hroom), List.append_assoc, List.singleton_append]

end Numbered

/-- Every stored number of a suggestion leaves room for a greater one. -/
def RecommendationNumbersFit (s : Store) : Prop :=
  ∀ r ∈ s.recommendations.rows, r.id.value.toNat + 1 < Word.count64

instance (s : Store) : Decidable s.RecommendationNumbersFit :=
  inferInstanceAs (Decidable (∀ r ∈ s.recommendations.rows, r.id.value.toNat + 1 < Word.count64))

end Store

end SupplyRisk
