import SupplyRisk.Store.Roster

/-!
# Rosters as finite maps

A roster holds one row per rank, so it is a finite map from ranks to rows.  `find?_insert` and
`mem_insert_iff` say what an insertion does to a look-up and to the rows, `find?_erase` what a dropped row does.
Where the new row stands follows from its rank: behind all others when the rank is greater than theirs
(`rows_insert_of_gt`), in the place of the row with its rank when there is one (`rows_insert_of_mem`).  `mapRows`
changes every row and no rank, so it goes with look-ups and insertions.
-/

namespace SupplyRisk

open Ranked (rank)

variable {α : Type} [Ranked α]

theorem mem_insertRow_self (a : α) (rows : List α) : a ∈ insertRow a rows := by
  induction rows with
  | nil => simp [insertRow]
  | cons b bs ih =>
      unfold insertRow
      split
      · simp
      · split
        · exact List.mem_cons_of_mem b ih
        · simp

/-- Rows of other ranks survive an insertion. -/
theorem mem_insertRow_of_rank_ne {a x : α} {rows : List α} (hmem : x ∈ rows)
    (hrank : rank x ≠ rank a) : x ∈ insertRow a rows := by
  induction rows with
  | nil => cases hmem
  | cons b bs ih =>
      unfold insertRow
      split
      · exact List.mem_cons_of_mem a hmem
      · split
        · rcases List.mem_cons.1 hmem with rfl | hmem
          · simp
          · exact List.mem_cons_of_mem b (ih hmem)
        · rcases List.mem_cons.1 hmem with rfl | hmem
          · -- A row that is neither before nor after the new one has its rank.
            exact absurd (by omega) hrank
          · exact List.mem_cons_of_mem a hmem

theorem insertRow_of_gt {a : α} {rows : List α} (hgt : ∀ b ∈ rows, rank b < rank a) :
    insertRow a rows = rows ++ [a] := by
  induction rows with
  | nil => rfl
  | cons b bs ih =>
      have hb : rank b < rank a := hgt b (by simp)
      have hbs : insertRow a bs = bs ++ [a] := ih fun c hc => hgt c (by simp [hc])
      have hnot : ¬ rank a < rank b := by omega
      simp [insertRow, hnot, hb, hbs]

theorem insertRow_of_mem {a : α} {rows : List α} (hasc : Ascending rows)
    (hmem : ∃ b ∈ rows, rank b = rank a) :
    insertRow a rows = rows.map (fun b => if rank b = rank a then a else b) := by
  induction rows with
  | nil => obtain ⟨b, hb, -⟩ := hmem; cases hb
  | cons b bs ih =>
      obtain ⟨habove, hrest⟩ := List.pairwise_cons.1 hasc
      rcases Nat.lt_trichotomy (rank a) (rank b) with hlt | heq | hgt
      · -- All ranks are above that of `a`, so none equals it.
        obtain ⟨c, hc, hrank⟩ := hmem
        rcases List.mem_cons.1 hc with rfl | hc
        · omega
        · have := habove c hc
          omega
      · have hsame : bs.map (fun c => if rank c = rank a then a else c) = bs.map id := by
          apply List.map_congr_left
          intro c hc
          have := habove c hc
          rw [if_neg (by omega), id]
        rw [List.map_id] at hsame
        simp only [insertRow, List.map_cons, hsame]
        simp [heq]
      · have hmem' : ∃ c ∈ bs, rank c = rank a := by
          obtain ⟨c, hc, hrank⟩ := hmem
          rcases List.mem_cons.1 hc with rfl | hc
          · omega
          · exact ⟨c, hc, hrank⟩
        have hnot : ¬ rank a < rank b := by omega
        have hne : rank b ≠ rank a := by omega
        simp [insertRow, hnot, hgt, hne, ih hrest hmem']

namespace Roster

variable {r : Roster α} {a b : α} {n : Nat}

theorem eq_of_rank_eq (ha : a ∈ r.rows) (hb : b ∈ r.rows) (hrank : rank a = rank b) : a = b := by
  obtain ⟨i, hi, rfl⟩ := List.getElem_of_mem ha
  obtain ⟨j, hj, rfl⟩ := List.getElem_of_mem hb
  have hasc := List.pairwise_iff_getElem.1 r.ascending
  rcases Nat.lt_trichotomy i j with hlt | rfl | hgt
  · have := hasc i j hi hj hlt
    omega
  · rfl
  · have := hasc j i hj hi hgt
    omega

theorem find?_eq_some_iff : r.find? n = some a ↔ a ∈ r.rows ∧ rank a = n := by
  constructor
  · intro hfind
    exact ⟨List.mem_of_find?_eq_some hfind, by simpa using List.find?_some hfind⟩
  · rintro ⟨hmem, rfl⟩
    cases hfind : r.find? (rank a) with
    | none =>
        have := List.find?_eq_none.1 hfind a hmem
        simp at this
    | some b =>
        have hb : rank b = rank a := by simpa using List.find?_some hfind
        rw [eq_of_rank_eq (List.mem_of_find?_eq_some hfind) hmem hb]

theorem find?_eq_none_iff : r.find? n = none ↔ ∀ a ∈ r.rows, rank a ≠ n := by
  simp [find?, List.find?_eq_none]

theorem contains_iff : r.contains n = true ↔ ∃ a, r.find? n = some a := Option.isSome_iff_exists

/-- An insertion drops the row of the same rank and no other. -/
theorem mem_insert_iff : b ∈ (r.insert a).rows ↔ b = a ∨ b ∈ r.rows ∧ rank b ≠ rank a := by
  constructor
  · intro hmem
    by_cases hba : b = a
    · exact .inl hba
    · refine .inr ⟨(mem_insertRow hmem).resolve_left hba, fun hrank => hba ?_⟩
      exact eq_of_rank_eq hmem (mem_insertRow_self a r.rows) hrank
  · rintro (rfl | ⟨hmem, hrank⟩)
    · exact mem_insertRow_self b r.rows
    · exact mem_insertRow_of_rank_ne hmem hrank

theorem forall_mem_insert {P : α → Prop} (ha : P a) (hr : ∀ b ∈ r.rows, P b) : ∀ b ∈ (r.insert a).rows, P b := by
  intro b hb
  rcases mem_insert_iff.1 hb with rfl | ⟨hb, -⟩
  · exact ha
  · exact hr b hb

theorem find?_insert (r : Roster α) (a : α) (n : Nat) :
    (r.insert a).find? n = if rank a = n then some a else r.find? n := by
  split
  · rename_i hrank
    exact find?_eq_some_iff.2 ⟨mem_insertRow_self a r.rows, hrank⟩
  · rename_i hrank
    -- Both look-ups find the same rows, since the new row has another rank.
    apply Option.ext
    intro b
    rw [find?_eq_some_iff, find?_eq_some_iff, mem_insert_iff]
    constructor
    · rintro ⟨rfl | ⟨hmem, -⟩, hb⟩
      · exact absurd hb hrank
      · exact ⟨hmem, hb⟩
    · rintro ⟨hmem, rfl⟩
      exact ⟨.inr ⟨hmem, fun h => hrank h.symm⟩, rfl⟩

theorem rows_insert_of_gt (hgt : ∀ b ∈ r.rows, rank b < rank a) :
    (r.insert a).rows = r.rows ++ [a] := insertRow_of_gt hgt

theorem rows_insert_of_mem (hmem : ∃ b ∈ r.rows, rank b = rank a) :
    (r.insert a).rows = r.rows.map (fun b => if rank b = rank a then a else b) :=
  insertRow_of_mem r.ascending hmem

/-- No rank is above the last one. -/
theorem rank_le_of_lastRank {m : Nat} (hlast : r.lastRank? = some m) (hmem : a ∈ r.rows) :
    rank a ≤ m := by
  obtain ⟨z, hz, rfl⟩ := Option.map_eq_some_iff.1 hlast
  obtain ⟨init, hrows⟩ := List.getLast?_eq_some_iff.1 hz
  have hasc := r.ascending
  rw [hrows] at hmem hasc
  rcases List.mem_append.1 hmem with hinit | hz
  · exact Nat.le_of_lt ((List.pairwise_append.1 hasc).2.2 a hinit z (by simp))
  · exact Nat.le_of_eq (congrArg rank (List.mem_singleton.1 hz))

theorem rows_eq_nil_of_lastRank (hlast : r.lastRank? = none) : r.rows = [] := by
  simpa [lastRank?] using hlast

/-- The last rank is the rank of a row. -/
theorem exists_mem_of_lastRank {m : Nat} (hlast : r.lastRank? = some m) :
    ∃ a ∈ r.rows, rank a = m := by
  obtain ⟨z, hz, rfl⟩ := Option.map_eq_some_iff.1 hlast
  exact ⟨z, List.mem_of_getLast? hz, rfl⟩

/-- A row that is there already can be inserted again without any effect. -/
theorem insert_of_mem (hmem : a ∈ r.rows) : r.insert a = r := by
  have hrows : (r.insert a).rows = r.rows.map id := by
    refine (rows_insert_of_mem ⟨a, hmem, rfl⟩).trans (List.map_congr_left fun b hb => ?_)
    split
    · rename_i hrank
      exact (eq_of_rank_eq hb hmem hrank).symm
    · rfl
  exact ext (hrows.trans (List.map_id r.rows))

/-- No row comes twice. -/
theorem nodup (r : Roster α) : r.rows.Nodup :=
  r.ascending.imp fun {a b} hlt heq => by
    rw [heq] at hlt
    exact Nat.lt_irrefl _ hlt

/-- A roster is the set of its rows. -/
theorem ext_mem {t : Roster α} (hmem : ∀ a, a ∈ r.rows ↔ a ∈ t.rows) : r = t := by
  refine ext (((List.perm_ext_iff_of_nodup r.nodup t.nodup).2 hmem).eq_of_pairwise ?_ r.ascending t.ascending)
  intro a b _ _ hab hba
  omega

/-- A roster is what its look-ups find. -/
theorem ext_find? (hfind : ∀ n, r.find? n = t.find? n) : r = t := by
  refine ext_mem fun a => ?_
  have hmem (u : Roster α) : a ∈ u.rows ↔ u.find? (rank a) = some a := by simp [find?_eq_some_iff]
  rw [hmem, hmem, hfind]

/-- Of two rows of one rank the last one stays. -/
theorem insert_insert (hrank : rank a = rank b) : (r.insert a).insert b = r.insert b := by
  refine ext_mem fun c => ?_
  rw [mem_insert_iff, mem_insert_iff, mem_insert_iff, hrank]
  constructor
  · rintro (rfl | ⟨rfl | hc, hne⟩)
    · exact .inl rfl
    · exact absurd hrank hne
    · exact .inr hc
  · rintro (rfl | hc)
    · exact .inl rfl
    · exact .inr ⟨.inr hc, hc.2⟩

/-- Rows of different ranks can come in in any order. -/
theorem insert_comm (hrank : rank a ≠ rank b) : (r.insert a).insert b = (r.insert b).insert a := by
  refine ext_mem fun c => ?_
  rw [mem_insert_iff, mem_insert_iff, mem_insert_iff, mem_insert_iff]
  constructor
  · rintro (rfl | ⟨rfl | ⟨hc, hca⟩, hcb⟩)
    · exact .inr ⟨.inl rfl, hrank.symm⟩
    · exact .inl rfl
    · exact .inr ⟨.inr ⟨hc, hcb⟩, hca⟩
  · rintro (rfl | ⟨rfl | ⟨hc, hcb⟩, hca⟩)
    · exact .inr ⟨.inl rfl, hrank⟩
    · exact .inl rfl
    · exact .inr ⟨.inr ⟨hc, hca⟩, hcb⟩

theorem find?_erase (r : Roster α) (m n : Nat) :
    (r.erase m).find? n = if n = m then none else r.find? n := by
  apply Option.ext
  intro a
  split
  · rename_i hsame
    rw [find?_eq_some_iff]
    simp [erase, hsame]
  · rename_i hne
    rw [find?_eq_some_iff, find?_eq_some_iff]
    simp only [erase, List.mem_filter, bne_iff_ne]
    constructor
    · rintro ⟨⟨hmem, -⟩, hrank⟩
      exact ⟨hmem, hrank⟩
    · rintro ⟨hmem, rfl⟩
      exact ⟨⟨hmem, hne⟩, rfl⟩

theorem contains_erase_self (r : Roster α) (n : Nat) : (r.erase n).contains n = false := by
  rw [contains, find?_erase, if_pos rfl]
  rfl

/-- Nothing comes in when a row is dropped. -/
theorem contains_of_contains_erase {m : Nat} (h : (r.erase m).contains n = true) :
    r.contains n = true := by
  rw [contains, find?_erase] at h
  split at h
  · cases h
  · exact h

/-! ## Rosters of lists -/

/-- Rows in their order come in one behind the other. -/
theorem rows_foldl_insert {rows : List α} (hasc : Ascending rows) (habove : ∀ a ∈ r.rows, ∀ b ∈ rows, rank a < rank b) :
    (rows.foldl insert r).rows = r.rows ++ rows := by
  induction rows generalizing r with
  | nil => rw [List.foldl_nil, List.append_nil]
  | cons b bs ih =>
      obtain ⟨hb, hbs⟩ := List.pairwise_cons.1 hasc
      have hrows : (r.insert b).rows = r.rows ++ [b] := rows_insert_of_gt fun a ha => habove a ha b (by simp)
      have habove' : ∀ a ∈ (r.insert b).rows, ∀ c ∈ bs, rank a < rank c := by
        intro a ha c hc
        rw [hrows, List.mem_append, List.mem_singleton] at ha
        rcases ha with ha | rfl
        · exact habove a ha c (by simp [hc])
        · exact hb c hc
      rw [List.foldl_cons, ih hbs habove', hrows, List.append_assoc, List.singleton_append]

/-- A roster is the roster of its own rows. -/
@[simp] theorem ofList_rows (r : Roster α) : ofList r.rows = r :=
  ext (rows_foldl_insert (r := empty) r.ascending fun _ ha => nomatch ha)

theorem find?_foldl_insert (rows : List α) (r : Roster α) (n : Nat) :
    (rows.foldl insert r).find? n = (rows.reverse.find? (fun a => rank a == n)).or (r.find? n) := by
  induction rows generalizing r with
  | nil => rfl
  | cons a as ih =>
      rw [List.foldl_cons, ih, find?_insert, List.reverse_cons, List.find?_append, Option.or_assoc]
      by_cases ha : rank a = n
      · simp [ha]
      · simp [ha]

/-- Of the rows of a list with one rank the last one is found. -/
theorem find?_ofList (rows : List α) (n : Nat) :
    (ofList rows).find? n = rows.reverse.find? (fun a => rank a == n) := by
  rw [ofList, find?_foldl_insert]
  exact Option.or_none

/-- A collected roster has no other rows. -/
theorem mem_of_mem_ofList {rows : List α} {a : α} (hmem : a ∈ (ofList rows).rows) : a ∈ rows := by
  have hfind : (ofList rows).find? (rank a) = some a := find?_eq_some_iff.2 ⟨hmem, rfl⟩
  rw [find?_ofList] at hfind
  exact List.mem_reverse.1 (List.mem_of_find?_eq_some hfind)

/-! ## Changing every row -/

/-- The roster with every row changed, by a change that keeps the ranks. -/
def mapRows (r : Roster α) (change : α → α) (hrank : ∀ a, rank (change a) = rank a) : Roster α where
  rows := r.rows.map change
  ascending := by
    refine List.pairwise_map.2 (r.ascending.imp fun {a b} hlt => ?_)
    rw [hrank a, hrank b]
    exact hlt

variable {change : α → α} {hrank : ∀ a, rank (change a) = rank a}

theorem find?_mapRows (r : Roster α) (n : Nat) :
    (r.mapRows change hrank).find? n = (r.find? n).map change := by
  simp only [find?, mapRows, List.find?_map]
  congr 2
  funext a
  exact congrArg (· == n) (hrank a)

theorem insert_mapRows (r : Roster α) (a : α) :
    (r.insert a).mapRows change hrank = (r.mapRows change hrank).insert (change a) := by
  have hrows (rows : List α) : (insertRow a rows).map change = insertRow (change a) (rows.map change) := by
    induction rows with
    | nil => rfl
    | cons b bs ih =>
        simp only [insertRow, List.map_cons, hrank]
        split
        · rfl
        · split
          · rw [List.map_cons, ih]
          · rfl
  exact ext (hrows r.rows)

/-- Some rows are changed by inserting what they change to, if the change leaves the others as they are. -/
theorem foldl_insert_map {change : α → α} (hrank : ∀ a, rank (change a) = rank a) {rows : List α}
    (hrows : ∀ a ∈ rows, a ∈ r.rows) (hothers : ∀ a ∈ r.rows, a ∉ rows → change a = a) :
    (rows.map change).foldl insert r = r.mapRows change hrank := by
  refine ext_find? fun n => ?_
  rw [find?_foldl_insert, find?_mapRows]
  cases hfound : (rows.map change).reverse.find? (fun a => rank a == n) with
  | some b =>
      have hb : rank b = n := by simpa using List.find?_some hfound
      obtain ⟨a, ha, rfl⟩ := List.mem_map.1 (List.mem_reverse.1 (List.mem_of_find?_eq_some hfound))
      rw [hrank] at hb
      rw [Option.some_or, find?_eq_some_iff.2 ⟨hrows a ha, hb⟩, Option.map_some]
  | none =>
      rw [Option.none_or]
      cases hstored : r.find? n with
      | none => rfl
      | some a =>
          obtain ⟨ha, hn⟩ := find?_eq_some_iff.1 hstored
          have hother : a ∉ rows := fun hmem => by
            have hne := List.find?_eq_none.1 hfound (change a) (List.mem_reverse.2 (List.mem_map_of_mem hmem))
            exact hne (by simp [hrank, hn])
          rw [Option.map_some, hothers a ha hother]

end Roster

end SupplyRisk
