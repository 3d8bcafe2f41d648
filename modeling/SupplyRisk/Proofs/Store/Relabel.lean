import Mathlib.Logic.Equiv.Basic
import SupplyRisk.Proofs.Store.Write

/-!
# Rosters under other ranks

The rows of a roster can be changed as long as the change tells them apart as their ranks do (`Roster.Faithful`).
Where the numbers in use stay in use, so does the number that comes next.  Two rows that come in one after the other
trade their numbers by `Store.exchange`.
-/

namespace SupplyRisk

namespace Roster

variable {α : Type} [Ranked α] {r t : Roster α} {a b : α} {f g : α → α}

theorem mem_foldl_insert {rows : List α} (hdistinct : rows.Pairwise (fun a b => Ranked.rank a ≠ Ranked.rank b)) :
    b ∈ (rows.foldl insert r).rows ↔ b ∈ rows ∨ b ∈ r.rows ∧ ∀ a ∈ rows, Ranked.rank b ≠ Ranked.rank a := by
  induction rows generalizing r with
  | nil => simp
  | cons a as ih =>
      obtain ⟨hfirst, hrest⟩ := List.pairwise_cons.1 hdistinct
      rw [List.foldl_cons, ih hrest, mem_insert_iff]
      constructor
      · rintro (hb | ⟨rfl | ⟨hb, hne⟩, hall⟩)
        · exact .inl (List.mem_cons_of_mem a hb)
        · exact .inl (List.mem_cons_self ..)
        · exact .inr ⟨hb, List.forall_mem_cons.2 ⟨hne, hall⟩⟩
      · rintro (hb | ⟨hb, hall⟩)
        · rcases List.mem_cons.1 hb with rfl | hb
          · exact .inr ⟨.inl rfl, hfirst⟩
          · exact .inl hb
        · obtain ⟨hne, hall⟩ := List.forall_mem_cons.1 hall
          exact .inr ⟨.inr ⟨hb, hne⟩, hall⟩

theorem mem_ofList_iff {rows : List α} (hdistinct : rows.Pairwise (fun a b => Ranked.rank a ≠ Ranked.rank b)) :
    b ∈ (ofList rows).rows ↔ b ∈ rows := by
  rw [ofList, mem_foldl_insert hdistinct]
  exact or_iff_left fun h => absurd h.1 List.not_mem_nil

/-- The roster with every row changed, where the changed rows may stand in another order. -/
def relabel (r : Roster α) (f : α → α) : Roster α := ofList (r.rows.map f)

/-- The change tells rows apart as their ranks do. -/
def Faithful (f : α → α) : Prop := ∀ a b, Ranked.rank (f a) = Ranked.rank (f b) ↔ Ranked.rank a = Ranked.rank b

theorem mem_relabel_iff (hf : Faithful f) : b ∈ (r.relabel f).rows ↔ ∃ a ∈ r.rows, f a = b := by
  have hdistinct : (r.rows.map f).Pairwise (fun a b => Ranked.rank a ≠ Ranked.rank b) := by
    refine List.pairwise_map.2 (r.ascending.imp fun {a b} hlt hsame => ?_)
    have := (hf a b).1 hsame
    omega
  rw [relabel, mem_ofList_iff hdistinct, List.mem_map]

theorem relabel_insert (hf : Faithful f) : (r.insert a).relabel f = (r.relabel f).insert (f a) := by
  refine ext_mem fun b => ?_
  rw [mem_relabel_iff hf, mem_insert_iff, mem_relabel_iff hf]
  constructor
  · rintro ⟨c, hc, rfl⟩
    rcases mem_insert_iff.1 hc with rfl | ⟨hc, hne⟩
    · exact .inl rfl
    · exact .inr ⟨⟨c, hc, rfl⟩, mt (hf c a).1 hne⟩
  · rintro (rfl | ⟨⟨c, hc, rfl⟩, hne⟩)
    · exact ⟨a, mem_insert_iff.2 (.inl rfl), rfl⟩
    · exact ⟨c, mem_insert_iff.2 (.inr ⟨hc, mt (hf c a).2 hne⟩), rfl⟩

theorem relabel_insert? (hf : Faithful f) (o : Option α) :
    (r.insert? o).relabel f = (r.relabel f).insert? (o.map f) := by
  cases o with
  | none => rfl
  | some a => exact relabel_insert hf

theorem relabel_of_fixed (hf : Faithful f) (hfixed : ∀ a ∈ r.rows, f a = a) : r.relabel f = r := by
  refine ext_mem fun b => (mem_relabel_iff hf).trans ⟨?_, fun hb => ⟨b, hb, hfixed b hb⟩⟩
  rintro ⟨a, ha, rfl⟩
  rwa [hfixed a ha]

theorem relabel_relabel (hf : Faithful f) (hg : Faithful g) :
    (r.relabel f).relabel g = r.relabel (fun a => g (f a)) := by
  have hgf : Faithful (fun a => g (f a)) := fun a b => (hg (f a) (f b)).trans (hf a b)
  refine ext_mem fun c => ?_
  rw [mem_relabel_iff hg, mem_relabel_iff hgf]
  constructor
  · rintro ⟨b, hb, rfl⟩
    obtain ⟨a, ha, rfl⟩ := (mem_relabel_iff hf).1 hb
    exact ⟨a, ha, rfl⟩
  · rintro ⟨a, ha, rfl⟩
    exact ⟨f a, (mem_relabel_iff hf).2 ⟨a, ha, rfl⟩, rfl⟩

/-- The number is one of the roster. -/
def Uses (r : Roster α) (n : UInt64) : Prop := ∃ a ∈ r.rows, Ranked.rank a = n.toNat

/-- The number is one of the second roster, but not of the first one. -/
def Assigned (r t : Roster α) (n : UInt64) : Prop := t.Uses n ∧ ¬ r.Uses n

theorem Holds.uses {n : UInt64} (hholds : t.Holds r) (huses : r.Uses n) : t.Uses n := by
  obtain ⟨a, ha, hrank⟩ := huses
  obtain ⟨b, hb, hba⟩ := hholds a ha
  exact ⟨b, hb, hba.trans hrank⟩

/-- No number is moved but those that are newly assigned from the first roster to the second one. -/
def MovesAssigned (π : Equiv.Perm UInt64) (r t : Roster α) : Prop := ∀ n, π n ≠ n → r.Assigned t n

namespace MovesAssigned

variable {π ρ : Equiv.Perm UInt64} {u : Roster α} {n : UInt64}

theorem fixes (hmoves : MovesAssigned π r t) (hn : ¬ r.Assigned t n) : π n = n :=
  Classical.not_not.1 fun hne => hn (hmoves n hne)

theorem fixes_used (hmoves : MovesAssigned π r t) (hn : r.Uses n) : π n = n := hmoves.fixes fun h => h.2 hn

theorem fixes_unused (hmoves : MovesAssigned π r t) (hn : ¬ t.Uses n) : π n = n := hmoves.fixes fun h => hn h.1

/-- Later rosters use the same numbers and more. -/
theorem mono (hmoves : MovesAssigned π r t) (hholds : u.Holds t) : MovesAssigned π r u :=
  fun n hn => ⟨hholds.uses (hmoves n hn).1, (hmoves n hn).2⟩

/-- Earlier rosters use no other numbers. -/
theorem anti (hmoves : MovesAssigned π r t) (hholds : r.Holds u) : MovesAssigned π u t :=
  fun n hn => ⟨(hmoves n hn).1, mt hholds.uses (hmoves n hn).2⟩

theorem trans (hπ : MovesAssigned π r t) (hρ : MovesAssigned ρ r t) : MovesAssigned (π.trans ρ) r t := by
  intro n hne
  by_cases hn : π n = n
  · refine hρ n fun h => hne ?_
    rw [Equiv.trans_apply, hn, h]
  · exact hπ n hn

end MovesAssigned

/-- Numbers that are moved among those in use stay in use. -/
theorem holds_relabel {π : Equiv.Perm UInt64} {number : α → UInt64} (hf : Faithful f)
    (hrank : ∀ a, Ranked.rank a = (number a).toNat) (hnumber : ∀ a, number (f a) = π (number a))
    (hmoves : ∀ n, π n ≠ n → r.Uses n) : (r.relabel f).Holds r ∧ r.Holds (r.relabel f) := by
  refine ⟨fun a ha => ?_, fun b hb => ?_⟩
  · by_cases hfixed : π.symm (number a) = number a
    · refine ⟨f a, (mem_relabel_iff hf).2 ⟨a, ha, rfl⟩, ?_⟩
      rw [hrank, hrank, hnumber, ← π.symm_apply_eq.1 hfixed]
    · -- The number that is moved to this one is in use.
      obtain ⟨c, hc, hrankc⟩ := hmoves (π.symm (number a)) fun h => hfixed ((π.apply_symm_apply _ ▸ h).symm)
      refine ⟨f c, (mem_relabel_iff hf).2 ⟨c, hc, rfl⟩, ?_⟩
      have hc : number c = π.symm (number a) := UInt64.toNat_inj.1 ((hrank c).symm.trans hrankc)
      rw [hrank, hrank, hnumber, hc, π.apply_symm_apply]
  · obtain ⟨a, ha, rfl⟩ := (mem_relabel_iff hf).1 hb
    by_cases hfixed : π (number a) = number a
    · exact ⟨a, ha, by rw [hrank, hrank, hnumber, hfixed]⟩
    · -- With a number the one that it is moved to is moved, so that is in use too.
      obtain ⟨c, hc, hrankc⟩ := hmoves (π (number a)) fun h => hfixed (π.injective h)
      exact ⟨c, hc, by rw [hrankc, hrank, hnumber]⟩

end Roster

namespace Store

variable {α : Type} [Ranked α] {r t : Roster α} {a : α}

theorem lastRank?_le (hrt : r.Holds t) {m n : Nat} (hr : r.lastRank? = some m) (ht : t.lastRank? = some n) :
    n ≤ m := by
  obtain ⟨b, hb, rfl⟩ := Roster.exists_mem_of_lastRank ht
  obtain ⟨a, ha, hrank⟩ := hrt b hb
  rw [← hrank]
  exact Roster.rank_le_of_lastRank hr ha

/-- The next number depends on the numbers that are in use. -/
theorem nextNumber_congr (hrt : r.Holds t) (htr : t.Holds r) : nextNumber r = nextNumber t := by
  have hempty {r t : Roster α} (htr : t.Holds r) (ht : t.lastRank? = none) : r.lastRank? = none := by
    cases hr : r.lastRank? with
    | none => rfl
    | some m =>
        obtain ⟨a, ha, -⟩ := Roster.exists_mem_of_lastRank hr
        obtain ⟨b, hb, -⟩ := htr a ha
        rw [Roster.rows_eq_nil_of_lastRank ht] at hb
        cases hb
  have hlast : r.lastRank? = t.lastRank? := by
    cases hr : r.lastRank? with
    | none => exact (hempty hrt hr).symm
    | some m =>
        cases ht : t.lastRank? with
        | none => exact hr.symm.trans (hempty htr ht)
        | some n => rw [Nat.le_antisymm (lastRank?_le htr ht hr) (lastRank?_le hrt hr ht)]
  rw [nextNumber, nextNumber, hlast]

theorem nextNumber_insert_of_next (hnext : Ranked.rank a = (nextNumber r).toNat)
    (hfit : ∀ b ∈ r.rows, Ranked.rank b + 1 < Word.count64) : nextNumber (r.insert a) = nextNumber r + 1 := by
  have hlast : (r.insert a).lastRank? = some (nextNumber r).toNat := by
    rw [Roster.lastRank?, rows_insert_of_next hnext hfit, List.getLast?_concat, Option.map_some, hnext]
  have hnumber : nextNumber (r.insert a) = UInt64.ofNat ((nextNumber r).toNat + 1) := by rw [nextNumber, hlast]
  rw [hnumber, UInt64.ofNat_add, UInt64.ofNat_toNat]
  rfl

/-- A row over another one takes no new number. -/
theorem nextNumber_insert_of_mem (hmem : ∃ b ∈ r.rows, Ranked.rank b = Ranked.rank a) :
    nextNumber (r.insert a) = nextNumber r := by
  refine nextNumber_congr ((Roster.Holds.refl r).insert a) fun b hb => ?_
  rcases Roster.mem_insert_iff.1 hb with rfl | ⟨hb, -⟩
  · exact hmem
  · exact ⟨b, hb, rfl⟩

theorem not_uses_nextNumber (hfit : ∀ b ∈ r.rows, Ranked.rank b + 1 < Word.count64) : ¬ r.Uses (nextNumber r) := by
  rintro ⟨a, ha, hrank⟩
  have := lt_nextNumber ha hfit
  omega

/-- The number that was next before a first write and the one that is next after it trade places, where a second
write takes one. -/
def exchange (taken : Bool) (k l : UInt64) : Equiv.Perm UInt64 := if taken then Equiv.swap k l else Equiv.refl UInt64

variable {x y : Bool} {k l l' : UInt64}

theorem exchange_fst (hl : l = if x then k + 1 else k) (hl' : l' = if y then k + 1 else k) (hx : x = true) :
    exchange y k l k = l' := by
  cases y with
  | true => rw [exchange, if_pos rfl, Equiv.swap_apply_left, hl, hl', if_pos hx, if_pos rfl]
  | false => exact hl'.symm

theorem exchange_snd (hy : y = true) : exchange y k l l = k := by
  rw [exchange, if_pos hy, Equiv.swap_apply_right]

/-- Only numbers that the two writes take are moved. -/
theorem exchange_moves {first second : Roster α} (hfirst : first.Holds r) (hsecond : second.Holds first)
    (hfit : y = true → ∀ a ∈ first.rows, Ranked.rank a + 1 < Word.count64)
    (hnext : nextNumber first = if x then nextNumber r + 1 else nextNumber r)
    (hx : x = true → first.Uses (nextNumber r)) (hy : y = true → second.Uses (nextNumber first)) :
    Roster.MovesAssigned (exchange y (nextNumber r) (nextNumber first)) r second := by
  intro j hmoves
  cases y with
  | false => exact absurd rfl hmoves
  | true =>
      obtain ⟨hne, hj⟩ := Equiv.swap_apply_ne_self_iff.1 hmoves
      cases x with
      | false => exact absurd hnext.symm hne
      | true =>
          have hfit := hfit rfl
          rcases hj with rfl | rfl
          · exact ⟨hsecond.uses (hx rfl), not_uses_nextNumber (hfirst.fit hfit)⟩
          · exact ⟨hy rfl, fun h => not_uses_nextNumber hfit (hfirst.uses h)⟩

end Store

end SupplyRisk
