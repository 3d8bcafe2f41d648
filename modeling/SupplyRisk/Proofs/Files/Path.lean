import Mathlib.Data.List.Basic
import SupplyRisk.Files.Path

/-!
# The parents of a path

`parts` are the names in a path.  The parent lacks the last of them (`of_parent?`), and a path without parts has
no parent (`parent?_eq_none_iff`).  `up?` goes to the parent again and again.  The lineage of a path lists the way up
(`getElem?_lineage`), which has one step for each part and ends at the root, or where a relative path starts
(`isSome_up?_iff`).
-/

namespace SupplyRisk.FilePath

variable {p q : FilePath} {place place' : Nat}

/-! ## Pieces -/

theorem text_eq_intercalate (p : FilePath) : p.text.toList = List.intercalate ['/'] p.pieces :=
  (List.intercalate_splitOn '/').symm

theorem pieces_ne_nil (p : FilePath) : p.pieces ≠ [] := List.splitOn_ne_nil '/' p.text.toList

theorem not_mem_of_mem_splitOn {cs piece : List Char} (hpiece : piece ∈ cs.splitOn '/') : '/' ∉ piece := by
  induction cs generalizing piece with
  | nil =>
      rw [List.splitOn_nil, List.mem_singleton] at hpiece
      simp [hpiece]
  | cons c cs ih =>
      rw [List.splitOn_cons_eq_if_modifyHead] at hpiece
      split at hpiece
      · rcases List.mem_cons.1 hpiece with rfl | hmem
        · simp
        · exact ih hmem
      · rename_i hc
        cases hsplit : cs.splitOn '/' with
        | nil => exact absurd hsplit (List.splitOn_ne_nil '/' cs)
        | cons first rest =>
            rw [hsplit, List.modifyHead_cons] at hpiece
            rcases List.mem_cons.1 hpiece with rfl | hmem
            · have hfirst : '/' ∉ first := ih (by simp [hsplit])
              have hne : '/' ≠ c := fun heq => hc (by rw [heq, beq_self_eq_true])
              simp [hne, hfirst]
            · exact ih (by simp [hsplit, hmem])

theorem pieces_ofPieces {ps : List (List Char)} (hne : ps ≠ []) (hslash : ∀ piece ∈ ps, '/' ∉ piece) :
    (ofPieces ps).pieces = ps := by
  rw [pieces, ofPieces, String.toList_ofList]
  exact List.splitOn_intercalate '/' hslash hne

@[simp] theorem pieces_upTo (p : FilePath) (place : Nat) : (p.upTo place).pieces = p.pieces.take (place + 1) := by
  have hne : p.pieces.take (place + 1) ≠ [] := by
    rw [Ne, List.take_eq_nil_iff, not_or]
    exact ⟨Nat.succ_ne_zero place, pieces_ne_nil p⟩
  exact pieces_ofPieces hne fun piece hpiece => not_mem_of_mem_splitOn (List.mem_of_mem_take hpiece)

theorem upTo_upTo (hle : place' ≤ place) : (p.upTo place).upTo place' = p.upTo place' := by
  have hmin : min (place' + 1) (place + 1) = place' + 1 := by omega
  rw [upTo, pieces_upTo, List.take_take, hmin, upTo]

/-! ## Parts -/

/-- The parts of a path with their places. -/
def marks (p : FilePath) : List (List Char × Nat) := p.pieces.zipIdx.filter (fun piece => isPart piece.2 piece.1)

/-- The names in a path. -/
def parts (p : FilePath) : List (List Char) := p.marks.map (·.1)

theorem partPlaces_eq (p : FilePath) : p.partPlaces = p.marks.map (·.2) := rfl

theorem filter_zipIdx_le (ps : List (List Char)) (k n : Nat) :
    (ps.zipIdx k).filter (fun piece => piece.2 ≤ k + n) = (ps.take (n + 1)).zipIdx k := by
  induction ps generalizing k n with
  | nil => simp
  | cons piece ps ih =>
      cases n with
      | zero =>
          have hlater : (ps.zipIdx (k + 1)).filter (fun piece => piece.2 ≤ k) = [] := by
            rw [List.filter_eq_nil_iff]
            intro piece hpiece
            have := List.le_snd_of_mem_zipIdx hpiece
            simp
            omega
          simp [hlater]
      | succ n =>
          have hshift : k + (n + 1) = k + 1 + n := by omega
          have hfirst : k ≤ k + 1 + n := by omega
          rw [List.zipIdx_cons, hshift, List.filter_cons_of_pos (by simpa using hfirst), ih, List.take_succ_cons,
            List.zipIdx_cons]

/-- Up to a place there are the parts up to that place. -/
theorem marks_upTo (p : FilePath) (place : Nat) :
    (p.upTo place).marks = p.marks.filter (fun piece => piece.2 ≤ place) := by
  have htake := filter_zipIdx_le p.pieces 0 place
  rw [Nat.zero_add] at htake
  rw [marks, pieces_upTo, ← htake, List.filter_filter, marks, List.filter_filter]
  exact List.filter_congr fun piece _ => Bool.and_comm _ _

theorem pairwise_marks (p : FilePath) : p.marks.Pairwise (fun a b => a.2 < b.2) := by
  refine List.Pairwise.filter _ (List.pairwise_map.1 ?_)
  rw [List.zipIdx_map_snd]
  exact List.pairwise_lt_range'

theorem isPart_of_mem_marks {mark : List Char × Nat} (hmark : mark ∈ p.marks) :
    p.pieces[mark.2]? = some mark.1 ∧ isPart mark.2 mark.1 = true := by
  obtain ⟨hmem, hpart⟩ := List.mem_filter.1 hmark
  exact ⟨List.mem_zipIdx_iff_getElem?.1 hmem, hpart⟩

/-- Up to its last but one part, a path has the parts before and that one. -/
theorem marks_upTo_of_append {before : List (List Char × Nat)} {mark last : List Char × Nat}
    (hmarks : p.marks = before ++ [mark, last]) : (p.upTo mark.2).marks = before ++ [mark] := by
  have hordered := pairwise_marks p
  rw [hmarks, List.pairwise_append] at hordered
  obtain ⟨-, hlast, hbefore⟩ := hordered
  have hlate : mark.2 < last.2 := by simpa using hlast
  have hkept : before.filter (fun piece => piece.2 ≤ mark.2) = before := by
    rw [List.filter_eq_self]
    intro piece hpiece
    have := hbefore piece hpiece mark (by simp)
    simp
    omega
  rw [marks_upTo, hmarks, List.filter_append, hkept]
  simp [hlate]

/-- The path up to a part starts at the root if the whole path does. -/
theorem isAbsolute_upTo {mark : List Char × Nat} (hmark : mark ∈ p.marks) :
    (p.upTo mark.2).isAbsolute = p.isAbsolute := by
  obtain ⟨hpiece, hpart⟩ := isPart_of_mem_marks hmark
  have hhead : (p.upTo mark.2).text.toList.head? = p.text.toList.head? := by
    rw [text_eq_intercalate, text_eq_intercalate p, pieces_upTo]
    cases hpieces : p.pieces with
    | nil => rfl
    | cons first rest =>
        rw [List.take_succ_cons]
        cases first with
        | cons c cs => cases rest <;> cases mark.2 <;> simp [List.intercalate]
        | nil =>
            -- The empty piece before the first slash is no part.
            rw [hpieces] at hpiece
            cases hplace : mark.2 with
            | zero =>
                rw [hplace, List.getElem?_cons_zero, Option.some.injEq] at hpiece
                rw [← hpiece] at hpart
                simp [isPart] at hpart
            | succ place =>
                rw [hplace, List.getElem?_cons_succ] at hpiece
                cases rest with
                | nil => simp at hpiece
                | cons second rest => simp [List.intercalate_cons_cons]
  rw [isAbsolute, isAbsolute, hhead]

theorem marks_base (p : FilePath) : p.base.marks = [] := by
  unfold base
  split <;> decide

theorem isAbsolute_base (p : FilePath) : p.base.isAbsolute = p.isAbsolute := by
  unfold base
  split
  · rename_i h
    rw [h]
    decide
  · rename_i h
    rw [Bool.not_eq_true] at h
    rw [h]
    decide

/-! ## The way up -/

theorem lineage_of_marks_nil (hmarks : p.marks = []) : p.lineage = [p] := by
  rw [lineage, partPlaces_eq, hmarks]
  rfl

theorem lineage_of_marks_append {before : List (List Char × Nat)} {last : List Char × Nat}
    (hmarks : p.marks = before ++ [last]) :
    p.lineage = p :: (before.reverse.map (fun mark => p.upTo mark.2) ++ [p.base]) := by
  rw [lineage, partPlaces_eq, hmarks]
  simp [List.map_reverse, Function.comp_def]

theorem head?_lineage (p : FilePath) : p.lineage.head? = some p := by
  rw [lineage]
  split <;> rfl

/-- The lineage of a path with parts goes on with that of its parent, which lacks the last part. -/
theorem exists_parent {before : List (List Char × Nat)} {last : List Char × Nat} (hmarks : p.marks = before ++ [last]) :
    ∃ q, p.parent? = some q ∧ q.marks = before ∧ q.isAbsolute = p.isAbsolute ∧ p.lineage = p :: q.lineage := by
  have hparent {q : FilePath} (hlineage : p.lineage = p :: q.lineage) : p.parent? = some q := by
    rw [parent?, hlineage, List.getElem?_cons_succ, ← List.head?_eq_getElem?, head?_lineage]
  have hlineage := lineage_of_marks_append hmarks
  rcases List.eq_nil_or_concat' before with rfl | ⟨before, mark, rfl⟩
  · have hup : p.lineage = p :: p.base.lineage := by
      rw [hlineage, lineage_of_marks_nil (marks_base p)]
      rfl
    exact ⟨p.base, hparent hup, marks_base p, isAbsolute_base p, hup⟩
  · rw [List.append_assoc, List.singleton_append] at hmarks
    have hmem : mark ∈ p.marks := by simp [hmarks]
    have habsolute := isAbsolute_upTo hmem
    have hmarks' : (p.upTo mark.2).marks = before ++ [mark] := marks_upTo_of_append hmarks
    have hsame : before.reverse.map (fun earlier => (p.upTo mark.2).upTo earlier.2) =
        before.reverse.map (fun earlier => p.upTo earlier.2) := by
      refine List.map_congr_left fun earlier hearlier => upTo_upTo ?_
      have hordered := pairwise_marks p
      rw [hmarks, List.pairwise_append] at hordered
      exact Nat.le_of_lt (hordered.2.2 earlier (List.mem_reverse.1 hearlier) mark (by simp))
    have hup : p.lineage = p :: (p.upTo mark.2).lineage := by
      rw [hlineage, lineage_of_marks_append hmarks', hsame, base, base, habsolute]
      simp
    exact ⟨p.upTo mark.2, hparent hup, hmarks', habsolute, hup⟩

theorem parts_eq_nil_iff : p.parts = [] ↔ p.marks = [] := List.map_eq_nil_iff

/-- Only a path without parts has no parent. -/
theorem parent?_eq_none_iff : p.parent? = none ↔ p.parts = [] := by
  rw [parts_eq_nil_iff]
  constructor
  · intro hnone
    rcases List.eq_nil_or_concat' p.marks with hmarks | ⟨before, last, hmarks⟩
    · exact hmarks
    · obtain ⟨q, hparent, -⟩ := exists_parent hmarks
      rw [hnone] at hparent
      cases hparent
  · intro hmarks
    rw [parent?, lineage_of_marks_nil hmarks]
    rfl

/-- The parent lacks the last part and starts at the root if the path does. -/
theorem of_parent? (hparent : p.parent? = some q) :
    q.parts = p.parts.dropLast ∧ q.isAbsolute = p.isAbsolute ∧ p.lineage = p :: q.lineage := by
  rcases List.eq_nil_or_concat' p.marks with hmarks | ⟨before, last, hmarks⟩
  · rw [parent?_eq_none_iff.2 (parts_eq_nil_iff.2 hmarks)] at hparent
    cases hparent
  · obtain ⟨q', hparent', hmarks', habsolute, hlineage⟩ := exists_parent hmarks
    obtain rfl : q' = q := Option.some.inj (hparent'.symm.trans hparent)
    exact ⟨by simp [parts, hmarks, hmarks'], habsolute, hlineage⟩

/-- The path so many parents up. -/
def up? (p : FilePath) : Nat → Option FilePath
  | 0 => some p
  | k + 1 => (p.up? k).bind parent?

theorem up?_succ (p : FilePath) (k : Nat) : p.up? (k + 1) = p.parent?.bind (fun q => q.up? k) := by
  induction k with
  | zero => cases hparent : p.parent? <;> simp [up?, hparent]
  | succ k ih =>
      rw [up?, ih]
      cases p.parent? <;> rfl

/-- The lineage lists the way up. -/
theorem getElem?_lineage (p : FilePath) (k : Nat) : p.lineage[k]? = p.up? k := by
  induction k generalizing p with
  | zero => rw [← List.head?_eq_getElem?, head?_lineage, up?]
  | succ k ih =>
      rw [up?_succ]
      cases hparent : p.parent? with
      | none =>
          rw [lineage_of_marks_nil (parts_eq_nil_iff.1 (parent?_eq_none_iff.1 hparent))]
          rfl
      | some q =>
          rw [(of_parent? hparent).2.2, List.getElem?_cons_succ, ih]
          rfl

/-- So many parents up, so many parts are gone. -/
theorem of_up? {k : Nat} (hup : p.up? k = some q) :
    k ≤ p.parts.length ∧ q.parts = p.parts.take (p.parts.length - k) ∧ q.isAbsolute = p.isAbsolute := by
  induction k generalizing q with
  | zero =>
      cases hup
      simp
  | succ k ih =>
      obtain ⟨below, hbelow, hparent⟩ := Option.bind_eq_some_iff.1 hup
      obtain ⟨hle, hparts, habsolute⟩ := ih hbelow
      obtain ⟨hparts', habsolute', -⟩ := of_parent? hparent
      have hsome : below.parts ≠ [] := by
        intro hnil
        rw [parent?_eq_none_iff.2 hnil] at hparent
        cases hparent
      have hlength : below.parts.length = p.parts.length - k := by
        rw [hparts, List.length_take]
        omega
      have hpos := List.length_pos_iff.2 hsome
      refine ⟨by omega, ?_, habsolute'.trans habsolute⟩
      rw [hparts', List.dropLast_eq_take, hlength, hparts, List.take_take]
      congr 1
      omega

/-- The way up has one step for each part. -/
theorem isSome_up?_iff {k : Nat} : (p.up? k).isSome = true ↔ k ≤ p.parts.length := by
  constructor
  · intro hsome
    obtain ⟨q, hup⟩ := Option.isSome_iff_exists.1 hsome
    exact (of_up? hup).1
  · intro hle
    induction k with
    | zero => rfl
    | succ k ih =>
        obtain ⟨below, hbelow⟩ := Option.isSome_iff_exists.1 (ih (by omega))
        obtain ⟨-, hparts, -⟩ := of_up? hbelow
        rw [up?, hbelow, Option.bind_some, Option.isSome_iff_ne_none]
        intro hnone
        have hlength := congrArg List.length (hparts.symm.trans (parent?_eq_none_iff.1 hnone))
        rw [List.length_take, List.length_nil] at hlength
        omega

/-- The first directories on the way up. -/
theorem ancestors_eq (p : FilePath) (depth : Nat) : p.ancestors depth = (List.range depth).filterMap p.up? := by
  induction depth with
  | zero => rfl
  | succ depth ih =>
      have hnext : (p.lineage[depth]?).toList = [depth].filterMap p.up? := by
        rw [getElem?_lineage]
        cases hup : p.up? depth <;> simp [hup]
      rw [ancestors, List.take_add_one, hnext, List.range_succ, List.filterMap_append, ← ih, ancestors]

end SupplyRisk.FilePath
