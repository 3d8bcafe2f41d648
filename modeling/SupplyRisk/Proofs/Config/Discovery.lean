import SupplyRisk.Config.Discovery
import SupplyRisk.Proofs.Files.Path

/-!
# Which configuration is found

A `Shelf` holds any contents for any paths and keeps a record of the files that are read.  On a shelf the search reads
candidates in their order, up to the first usable one (`run_firstUsable`), and a tree of files gives the same result as
a shelf with its contents (`run_firstUsable_tree`).  The candidates are the files of the first ten directories on the
way up, and then that of the user (`candidates_eq`), so the nearest usable file counts (`nearest_configuration`).
-/

namespace SupplyRisk

/-- Files that can only be read, whatever they hold, and the files that were read so far. -/
structure Shelf where
  contents : FilePath → Except FileFault String
  consulted : List FilePath

namespace Shelf

/-- What a shelf says to anything but reading. -/
def refusal : FileFault := .other "Read-only file system (os error 30)"

instance : FileAccess (StateM Shelf) where
  read p := fun shelf => (shelf.contents p, { shelf with consulted := shelf.consulted ++ [p] })
  write _ _ := pure (.error refusal)
  rename _ _ := pure (.error refusal)
  createDirectories _ := pure (.error refusal)
  «exists» p := fun shelf => ((shelf.contents p).isOk, shelf)

theorem run_read_bind {α : Type} (p : FilePath) (more : Except FileFault String → StateM Shelf α) (shelf : Shelf) :
    (FileAccess.read p >>= more).run shelf =
      (more (shelf.contents p)).run { shelf with consulted := shelf.consulted ++ [p] } := rfl

end Shelf

theorem FileTree.run_read_bind {α : Type} (p : FilePath) (more : Except FileFault String → StateM FileTree α)
    (t : FileTree) : (FileAccess.read p >>= more).run t = (more (t.read p)).run t := rfl

namespace Config

variable {contents : FilePath → Except FileFault String} {c : Config}

/-- A file can be read and holds an accepted configuration. -/
def Holds (contents : FilePath → Except FileFault String) (p : FilePath) (c : Config) : Prop :=
  ∃ text, contents p = .ok text ∧ ofText text = .ok c

theorem usable?_eq_some_iff {p : FilePath} : usable? (contents p) = some c ↔ Holds contents p c := by
  unfold usable? Holds
  cases contents p with
  | error fault => simp
  | ok text =>
      simp only [Except.ok.injEq, exists_eq_left']
      cases ofText text <;> simp [Except.toOption]

theorem usable?_eq_none_iff {p : FilePath} : usable? (contents p) = none ↔ ∀ c, ¬ Holds contents p c := by
  simp only [← usable?_eq_some_iff, Option.eq_none_iff_forall_ne_some, ne_eq]

/-! ## The search -/

/-- The files that a search reads: up to the first usable one, or all. -/
def searched (contents : FilePath → Except FileFault String) : List FilePath → List FilePath
  | [] => []
  | p :: ps => if (usable? (contents p)).isSome then [p] else p :: searched contents ps

theorem searched_prefix (contents : FilePath → Except FileFault String) (ps : List FilePath) :
    searched contents ps <+: ps := by
  induction ps with
  | nil => exact List.prefix_rfl
  | cons p ps ih =>
      unfold searched
      split
      · exact ⟨ps, rfl⟩
      · exact List.cons_prefix_cons.2 ⟨rfl, ih⟩

theorem run_firstUsable (ps seen : List FilePath) :
    (firstUsable ps : StateM Shelf (Option Config)).run ⟨contents, seen⟩ =
      (ps.findSome? (fun p => usable? (contents p)), ⟨contents, seen ++ searched contents ps⟩) := by
  induction ps generalizing seen with
  | nil => simp [searched, firstUsable]; rfl
  | cons p ps ih =>
      rw [firstUsable, Shelf.run_read_bind, searched, List.findSome?_cons]
      cases usable? (contents p) with
      | some c => rfl
      | none =>
          rw [ih]
          simp

/-- In a tree of files the search finds what it finds on a shelf with the same contents. -/
theorem run_firstUsable_tree (ps : List FilePath) (t : FileTree) :
    (firstUsable ps : StateM FileTree (Option Config)).run t = (ps.findSome? (fun p => usable? (t.read p)), t) := by
  induction ps with
  | nil => rfl
  | cons p ps ih =>
      rw [firstUsable, FileTree.run_read_bind, List.findSome?_cons]
      cases usable? (t.read p) with
      | some c => rfl
      | none => exact ih

/-! ## The candidates -/

/-- The configuration file of the directory so many parents up. -/
def fileAbove? (start : FilePath) (k : Nat) : Option FilePath := (start.up? k).map (·.join ⟨fileName⟩)

theorem candidates_eq (start : FilePath) (user : Option FilePath) :
    candidates start user = (List.range 10).filterMap (fileAbove? start) ++ user.toList := by
  rw [candidates, FilePath.ancestors_eq, List.map_filterMap]
  rfl

/-- In the directories fewer than `k` parents up there is no usable file. -/
def NoneBelow (contents : FilePath → Except FileFault String) (start : FilePath) (k : Nat) : Prop :=
  ∀ j < k, ∀ p, fileAbove? start j = some p → ∀ c, ¬ Holds contents p c

/-- What the search finds in the directories on the way up. -/
def foundAbove (contents : FilePath → Except FileFault String) (start : FilePath) (k : Nat) : Option Config :=
  ((List.range k).filterMap (fileAbove? start)).findSome? (fun p => usable? (contents p))

theorem foundAbove_succ (contents : FilePath → Except FileFault String) (start : FilePath) (k : Nat) :
    foundAbove contents start (k + 1) =
      (foundAbove contents start k).or ((fileAbove? start k).bind (fun p => usable? (contents p))) := by
  rw [foundAbove, List.range_succ, List.filterMap_append, List.findSome?_append, foundAbove]
  cases hfile : fileAbove? start k <;> simp [hfile]

theorem foundAbove_eq_none_iff {start : FilePath} {k : Nat} :
    foundAbove contents start k = none ↔ NoneBelow contents start k := by
  unfold foundAbove NoneBelow
  simp only [List.findSome?_eq_none_iff, List.mem_filterMap, List.mem_range, usable?_eq_none_iff]
  constructor
  · exact fun hnone j hj p hp => hnone p ⟨j, hj, hp⟩
  · rintro hnone p ⟨j, hj, hp⟩
    exact hnone j hj p hp

/-- The nearest usable file is found. -/
theorem foundAbove_eq_some_iff {start : FilePath} {k : Nat} : foundAbove contents start k = some c ↔
    ∃ j < k, NoneBelow contents start j ∧ ∃ p, fileAbove? start j = some p ∧ Holds contents p c := by
  induction k with
  | zero => simp [foundAbove]
  | succ k ih =>
      rw [foundAbove_succ, Option.or_eq_some_iff, ih, foundAbove_eq_none_iff, Option.bind_eq_some_iff]
      simp only [usable?_eq_some_iff]
      constructor
      · rintro (⟨j, hj, hfound⟩ | ⟨hnone, hfound⟩)
        · exact ⟨j, by omega, hfound⟩
        · exact ⟨k, by omega, hnone, hfound⟩
      · rintro ⟨j, hj, hnone, hfound⟩
        by_cases hlast : j = k
        · subst hlast
          exact .inr ⟨hnone, hfound⟩
        · exact .inl ⟨j, by omega, hnone, hfound⟩

/-- **Which configuration is found.**  Files may hold anything: nothing, what cannot be read, what is refused or a
configuration.  Found is the configuration of the nearest usable file among those of the first ten directories on the
way up from the start, or that of the user if there is none, or nothing.  Files are read in this order and no others
are.  A directory so many parents up has so many names fewer than the start, and after the last name the way ends, at
the root or where a relative path starts.  A tree of files with these contents gives the same result and stays as it
is. -/
theorem nearest_configuration (contents : FilePath → Except FileFault String) (start : FilePath)
    (user : Option FilePath) :
    ∃ found consulted,
      (discover start user : StateM Shelf (Option Config)).run ⟨contents, []⟩ = (found, ⟨contents, consulted⟩) ∧
      (∀ c, found = some c ↔
        (∃ k < 10, NoneBelow contents start k ∧ ∃ directory, start.up? k = some directory ∧
          Holds contents (directory.join ⟨".chainrisk.toml"⟩) c) ∨
        NoneBelow contents start 10 ∧ ∃ p, user = some p ∧ Holds contents p c) ∧
      consulted <+: (List.range 10).filterMap (fileAbove? start) ++ user.toList ∧
      (∀ k directory, start.up? k = some directory →
        directory.parts = start.parts.take (start.parts.length - k) ∧ directory.isAbsolute = start.isAbsolute) ∧
      (∃ root, start.up? start.parts.length = some root ∧ root.parts = [] ∧ root.parent? = none) ∧
      ∀ t : FileTree, t.read = contents → (discover start user : StateM FileTree (Option Config)).run t = (found, t) := by
  let found := (candidates start user).findSome? (fun p => usable? (contents p))
  refine ⟨found, searched contents (candidates start user), ?_, fun c => ?_, ?_, fun k directory hup => ?_, ?_, ?_⟩
  · rw [discover, run_firstUsable, List.nil_append]
  · have hfound : found = (foundAbove contents start 10).or (user.bind (fun p => usable? (contents p))) := by
      simp only [found, candidates_eq, List.findSome?_append, foundAbove]
      cases user <;> simp
    -- The file of the user comes behind those on the way up.
    rw [hfound, Option.or_eq_some_iff, foundAbove_eq_some_iff, foundAbove_eq_none_iff, Option.bind_eq_some_iff]
    simp only [usable?_eq_some_iff, fileAbove?, Option.map_eq_some_iff, fileName]
    refine or_congr_left (exists_congr fun k => and_congr_right fun _ => and_congr_right fun _ => ?_)
    constructor
    · rintro ⟨p, ⟨directory, hup, rfl⟩, hholds⟩
      exact ⟨directory, hup, hholds⟩
    · rintro ⟨directory, hup, hholds⟩
      exact ⟨_, ⟨directory, hup, rfl⟩, hholds⟩
  · rw [← candidates_eq]
    exact searched_prefix contents (candidates start user)
  · exact (FilePath.of_up? hup).2
  · obtain ⟨root, hroot⟩ := Option.isSome_iff_exists.1 (FilePath.isSome_up?_iff.2 (Nat.le_refl start.parts.length))
    have hparts : root.parts = [] := by
      rw [(FilePath.of_up? hroot).2.1, Nat.sub_self, List.take_zero]
    exact ⟨root, hroot, hparts, FilePath.parent?_eq_none_iff.2 hparts⟩
  · rintro t rfl
    exact run_firstUsable_tree (candidates start user) t

/-- The file of the plant is broken and that of the directory above is a directory itself; the root holds a
configuration, and so does the directory of the user. -/
def plantFiles (p : FilePath) : Except FileFault String :=
  if p = ⟨"/srv/plant/.chainrisk.toml"⟩ then .ok "[alerts"
  else if p = ⟨"/srv/.chainrisk.toml"⟩ then .error .isDirectory
  else if p = ⟨"/.chainrisk.toml"⟩ then .ok "[recommendations]\nmax_per_part = 7\n"
  else if p = ⟨"/home/buyer/.config/chainrisk/config.toml"⟩ then .ok ""
  else .error .notFound

/-- From the plant, the configuration at the root is found past the files that cannot be used. -/
theorem broken_files_are_passed_over :
    ∃ found shelf, (discover ⟨"/srv/plant"⟩ (some ⟨"/home/buyer/.config/chainrisk/config.toml"⟩) :
        StateM Shelf (Option Config)).run ⟨plantFiles, []⟩ = (found, shelf) ∧
      found.map (·.recommendations.maxPerPart) = some 7 := by
  obtain ⟨found, consulted, hrun, hfound, -⟩ :=
    nearest_configuration plantFiles ⟨"/srv/plant"⟩ (some ⟨"/home/buyer/.config/chainrisk/config.toml"⟩)
  have hseven : (usable? (plantFiles ⟨"/.chainrisk.toml"⟩)).map (·.recommendations.maxPerPart) = some 7 := by
    decide +kernel
  obtain ⟨c, hc, hsetting⟩ := Option.map_eq_some_iff.1 hseven
  have hroot : FilePath.up? ⟨"/srv/plant"⟩ 2 = some ⟨"/"⟩ := by decide +kernel
  have hnone : NoneBelow plantFiles ⟨"/srv/plant"⟩ 2 := by
    rw [← foundAbove_eq_none_iff, ← Option.isNone_iff_eq_none]
    decide +kernel
  refine ⟨found, ⟨plantFiles, consulted⟩, hrun, ?_⟩
  rw [(hfound c).2 (.inl ⟨2, by omega, hnone, ⟨"/"⟩, hroot, usable?_eq_some_iff.1 hc⟩), Option.map_some, hsetting]

end Config

end SupplyRisk
