import SupplyRisk.Files.Tree

/-!
# Places in a tree of files

A path that `Names` a place goes on naming it as long as the directories of the tree stay (`Keeps`), as they do when
files are written, moved and removed and directories are made.  `read_of_names`, `write_of_names` and
`rename_of_names` say what the operations do with the places that their paths name.
-/

namespace SupplyRisk.FileTree

variable {t t' : FileTree} {p q : FilePath} {place other : Place} {entry : FileEntry} {content : String}

/-! ## Entries -/

theorem lookup_filter_ne (hne : other ≠ place) (entries : List (Place × FileEntry)) :
    (entries.filter (fun e => e.1 ≠ place)).lookup other = entries.lookup other := by
  induction entries with
  | nil => rfl
  | cons e es ih =>
      obtain ⟨here, e⟩ := e
      by_cases he : here = place
      · have hbeq : (other == here) = false := beq_eq_false_iff_ne.2 fun h => hne (h.trans he)
        rw [List.filter_cons_of_neg (by simpa using he), ih]
        simp only [List.lookup_cons, hbeq]
      · rw [List.filter_cons_of_pos (by simpa using he)]
        simp only [List.lookup_cons, ih]

theorem entry?_put (hplace : place ≠ []) :
    FileTree.entry? (t.put place entry) other = if other = place then some entry else t.entry? other := by
  by_cases hsame : other = place
  · subst hsame
    simp [ entry?, put, hplace]
  · have hbeq : (other == place) = false := beq_eq_false_iff_ne.2 hsame
    simp only [ entry?, put, if_neg hsame, List.lookup_cons, hbeq, lookup_filter_ne hsame]

theorem entry?_erase_of_ne (hne : other ≠ place) : FileTree.entry? (t.erase place) other = t.entry? other := by
  simp only [ entry?, erase, lookup_filter_ne hne]

theorem entry?_erase_self (hplace : place ≠ []) : FileTree.entry? (t.erase place) place = none := by
  rw [ entry?, if_neg hplace]
  refine List.lookup_eq_none_iff.2 fun e he => ?_
  have hne : e.1 ≠ place := by simpa using (List.mem_filter.1 he).2
  simpa using Ne.symm hne

/-! ## Trees that keep their directories -/

/-- From one tree to the other all directories stay. -/
structure Keeps (t t' : FileTree) : Prop where
  current : t'.current = t.current
  directory : ∀ place, t.entry? place = some .directory → t'.entry? place = some .directory

theorem Keeps.refl (t : FileTree) : t.Keeps t := ⟨rfl, fun _ h => h⟩

theorem Keeps.trans {t'' : FileTree} (h : t.Keeps t') (h' : t'.Keeps t'') : t.Keeps t'' :=
  ⟨h'.current.trans h.current, fun place hdir => h'.directory place (h.directory place hdir)⟩

/-- What is put where there is no directory takes none away. -/
theorem keeps_put (hplace : place ≠ []) (hentry : t.entry? place ≠ some .directory) :
    t.Keeps (t.put place entry) := by
  refine ⟨rfl, fun other hother => ?_⟩
  have hne : other ≠ place := by
    rintro rfl
    exact hentry hother
  rw [entry?_put hplace, if_neg hne, hother]

theorem keeps_erase (hentry : t.entry? place ≠ some .directory) : t.Keeps (t.erase place) := by
  refine ⟨rfl, fun other hother => ?_⟩
  have hne : other ≠ place := by
    rintro rfl
    exact hentry hother
  rw [entry?_erase_of_ne hne, hother]

theorem descend_of_keeps (hkeeps : t.Keeps t') {here there : Place} {names : List String}
    (hdescend : t.descend here names = .ok there) : t'.descend here names = .ok there := by
  induction names generalizing here with
  | nil => exact hdescend
  | cons name names ih =>
      -- A name stays, goes back or enters a directory, which is still there.
      unfold descend at hdescend ⊢
      split
      · rename_i hpoint
        rw [if_pos hpoint] at hdescend
        exact ih hdescend
      split
      · rename_i hpoint hpoints
        rw [if_neg hpoint, if_pos hpoints] at hdescend
        exact ih hdescend
      · rename_i hpoint hpoints
        rw [if_neg hpoint, if_neg hpoints] at hdescend
        cases hentry : t.entry? (here ++ [name]) with
        | none =>
            rw [hentry] at hdescend
            cases hdescend
        | some entry =>
            rw [hentry] at hdescend
            cases entry with
            | file content => cases hdescend
            | directory =>
                rw [hkeeps.directory _ hentry]
                exact ih hdescend

theorem locate_of_keeps (hkeeps : t.Keeps t') {destination : Destination} (hlocate : t.locate p = .ok destination) :
    t'.locate p = .ok destination := by
  unfold locate at hlocate ⊢
  rw [hkeeps.current]
  cases hlast : (namesOf p).getLast? with
  | none =>
      simp only [hlast] at hlocate ⊢
      exact hlocate
  | some last =>
      simp only [hlast] at hlocate ⊢
      cases hdescend : t.descend (if p.isAbsolute then [] else t.current) (namesOf p).dropLast with
      | error fault =>
          rw [hdescend] at hlocate
          cases hlocate
      | ok there =>
          rw [hdescend] at hlocate
          rw [descend_of_keeps hkeeps hdescend]
          exact hlocate

/-! ## Paths that name places -/

/-- The path leads to a place that may hold a file. -/
def Names (t : FileTree) (p : FilePath) (place : Place) : Prop :=
  ∃ parent name, t.locate p = .ok (.name parent name false) ∧ place = parent ++ [name]

/-- The path names a place without a directory on it, so that a file can be written there. -/
def CanWrite (t : FileTree) (p : FilePath) : Prop := ∃ place, t.Names p place ∧ t.entry? place ≠ some .directory

theorem Names.eq_of_locate {parent : Place} {name : String} (h : t.Names p place)
    (hlocate : t.locate p = .ok (.name parent name false)) : place = parent ++ [name] := by
  obtain ⟨parent', name', hlocate', rfl⟩ := h
  rw [hlocate] at hlocate'
  cases hlocate'
  rfl

instance (t : FileTree) (p : FilePath) : Decidable (t.CanWrite p) :=
  match hlocate : t.locate p with
  | .ok (.name parent name false) =>
      decidable_of_iff ( t.entry? (parent ++ [name]) ≠ some .directory)
        ⟨fun hfree => ⟨_, ⟨parent, name, hlocate, rfl⟩, hfree⟩,
          fun ⟨_, hnames, hfree⟩ => hnames.eq_of_locate hlocate ▸ hfree⟩
  | .ok (.name _ _ true) | .ok (.directory _) | .error _ => isFalse (by simp [CanWrite, Names, hlocate])

theorem Names.ne_nil (h : t.Names p place) : place ≠ [] := by
  obtain ⟨parent, name, -, rfl⟩ := h
  simp

theorem Names.of_keeps (h : t.Names p place) (hkeeps : t.Keeps t') : t'.Names p place := by
  obtain ⟨parent, name, hlocate, hplace⟩ := h
  exact ⟨parent, name, locate_of_keeps hkeeps hlocate, hplace⟩

/-- Where names lead from a place, if all directories on the way are there. -/
def follow (here : Place) (name : String) : Place :=
  if name = "." then here else if name = ".." then here.dropLast else here ++ [name]

theorem descend_eq_follow {here there : Place} {names : List String} (hdescend : t.descend here names = .ok there) :
    there = names.foldl follow here := by
  induction names generalizing here with
  | nil =>
      obtain rfl : here = there := by simpa [descend] using hdescend
      rfl
  | cons name names ih =>
      unfold descend at hdescend
      rw [List.foldl_cons, follow]
      split
      · rename_i hpoint
        rw [if_pos hpoint] at hdescend
        exact ih hdescend
      split
      · rename_i hpoint hpoints
        rw [if_neg hpoint, if_pos hpoints] at hdescend
        exact ih hdescend
      · rename_i hpoint hpoints
        rw [if_neg hpoint, if_neg hpoints] at hdescend
        split at hdescend
        · exact ih hdescend
        · cases hdescend
        · cases hdescend

/-- The place to which a path leads. -/
def target (t : FileTree) (p : FilePath) : Place :=
  (namesOf p).foldl follow (if p.isAbsolute then [] else t.current)

/-- A path names no other place than the one to which it leads. -/
theorem Names.eq_target (h : t.Names p place) : place = t.target p := by
  obtain ⟨parent, name, hlocate, rfl⟩ := h
  -- The path is walked up to its last name, which must be neither of the two that only move.
  unfold locate at hlocate
  cases hlast : (namesOf p).getLast? with
  | none =>
      simp only [hlast] at hlocate
      split at hlocate
      · cases hlocate
      · cases hlocate
  | some last =>
      simp only [hlast] at hlocate
      cases hdescend : t.descend (if p.isAbsolute then [] else t.current) (namesOf p).dropLast with
      | error fault =>
          rw [hdescend] at hlocate
          cases hlocate
      | ok there =>
          rw [hdescend] at hlocate
          simp only [bind, Except.bind] at hlocate
          obtain ⟨before, hnames⟩ := List.getLast?_eq_some_iff.1 hlast
          rw [hnames, List.dropLast_concat] at hdescend
          rw [target, hnames, List.foldl_append, List.foldl_cons, List.foldl_nil, ← descend_eq_follow hdescend, follow]
          split at hlocate
          · cases hlocate
          · rename_i hpoint
            split at hlocate
            · cases hlocate
            · rename_i hpoints
              simp only [Except.ok.injEq, Destination.name.injEq] at hlocate
              rw [if_neg hpoint, if_neg hpoints, hlocate.1, hlocate.2.1]

theorem target_of_keeps (hkeeps : t.Keeps t') : t'.target p = t.target p := by
  rw [target, target, hkeeps.current]

theorem read_of_names (h : t.Names p place) :
    t.read p = match t.entry? place with
      | none => .error .notFound
      | some .directory => .error .isDirectory
      | some (.file content) => .ok content := by
  obtain ⟨parent, name, hlocate, rfl⟩ := h
  simp only [read, hlocate, bind, Except.bind]
  split <;> simp_all

theorem read_eq_ok_iff : t.read p = .ok content ↔ ∃ place, t.Names p place ∧ t.entry? place = some (.file content) := by
  constructor
  · intro hread
    unfold read at hread
    cases hlocate : t.locate p with
    | error fault =>
        rw [hlocate] at hread
        cases hread
    | ok destination =>
        rw [hlocate] at hread
        simp only [bind, Except.bind] at hread
        cases destination with
        | directory place => cases hread
        | name parent name mustBeDirectory =>
            dsimp only at hread
            split at hread
            · cases hread
            · cases hread
            · rename_i found hentry
              cases mustBeDirectory with
              | true => cases hread
              | false =>
                  obtain rfl : found = content := by simpa using hread
                  exact ⟨_, ⟨parent, name, hlocate, rfl⟩, hentry⟩
  · rintro ⟨place, hnames, hentry⟩
    rw [read_of_names hnames, hentry]

/-- Writing to a path that can be written changes the entry that it names and no other. -/
theorem write_of_names (h : t.Names p place) (hfree : t.entry? place ≠ some .directory) (content : String) :
    ∃ t', t.write p content = .ok t' ∧ t.Keeps t' ∧ t'.entry? place = some (.file content) ∧
      ∀ other ≠ place, t'.entry? other = t.entry? other := by
  have hplace := h.ne_nil
  obtain ⟨parent, name, hlocate, rfl⟩ := h
  refine ⟨t.put (parent ++ [name]) (.file content), ?_, keeps_put hplace hfree, ?_, fun other hne => ?_⟩
  · simp [write, hlocate, bind, Except.bind, hfree]
  · rw [entry?_put hplace, if_pos rfl]
  · rw [entry?_put hplace, if_neg hne]

/-- A file moves to the place of another path, over a file that is there, and leaves its own place. -/
theorem rename_of_names (hp : t.Names p place) (hq : t.Names q other) (hentry : t.entry? place = some (.file content))
    (hfree : t.entry? other ≠ some .directory) :
    ∃ t', t.rename p q = .ok t' ∧ t.Keeps t' ∧ t'.entry? other = some (.file content) ∧
      t'.entry? place ≠ some .directory ∧ ∀ x, x ≠ place → x ≠ other → t'.entry? x = t.entry? x := by
  have hread : t.read p = .ok content := read_eq_ok_iff.2 ⟨place, hp, hentry⟩
  obtain ⟨moved, hwrite, hkeeps, hmoved, hrest⟩ := write_of_names hq hfree content
  have hplace := hp.ne_nil
  obtain ⟨parent, name, hlocate, rfl⟩ := hp
  obtain ⟨parent', name', hlocate', rfl⟩ := hq
  by_cases hsame : parent ++ [name] = parent' ++ [name']
  · refine ⟨moved, ?_, hkeeps, hmoved, ?_, fun x _ hx => hrest x hx⟩
    · simp only [rename, hread, hwrite, hlocate, hlocate', bind, Except.bind, if_pos hsame]
    · rw [hsame, hmoved]
      exact nofun
  · have hold : moved.entry? (parent ++ [name]) ≠ some .directory := by
      rw [hrest _ hsame, hentry]
      exact nofun
    refine ⟨moved.erase (parent ++ [name]), ?_, hkeeps.trans (keeps_erase hold), ?_, ?_, fun x hx hx' => ?_⟩
    · simp only [rename, hread, hwrite, hlocate, hlocate', bind, Except.bind, if_neg hsame]
    · rw [entry?_erase_of_ne (Ne.symm hsame), hmoved]
    · rw [entry?_erase_self hplace]
      exact nofun
    · rw [entry?_erase_of_ne hx, hrest x hx']

/-! ## What operations leave alone -/

/-- A written file takes no directory away and changes no entry but the one that its path names. -/
theorem keeps_of_write (hwrite : t.write p content = .ok t') :
    t.Keeps t' ∧ ∀ other, ¬ t.Names p other → t'.entry? other = t.entry? other := by
  unfold write at hwrite
  cases hlocate : t.locate p with
  | error fault =>
      rw [hlocate] at hwrite
      cases hwrite
  | ok destination =>
      rw [hlocate] at hwrite
      simp only [bind, Except.bind] at hwrite
      cases destination with
      | directory place => cases hwrite
      | name parent name mustBeDirectory =>
          dsimp only at hwrite
          split at hwrite
          · cases hwrite
          · rename_i hfree
            obtain ⟨hfile, hentry⟩ := not_or.1 hfree
            obtain rfl : mustBeDirectory = false := Bool.eq_false_iff.2 hfile
            obtain rfl : t.put (parent ++ [name]) (.file content) = t' := by simpa using hwrite
            have hplace : parent ++ [name] ≠ [] := by simp
            refine ⟨keeps_put hplace hentry, fun other hother => ?_⟩
            have hne : other ≠ parent ++ [name] := fun h => hother ⟨parent, name, hlocate, h⟩
            rw [entry?_put hplace, if_neg hne]

/-- New directories take no directory away and change no file. -/
structure Extends (t t' : FileTree) : Prop where
  keeps : t.Keeps t'
  file : ∀ place content, t.entry? place = some (.file content) → t'.entry? place = some (.file content)

theorem Extends.refl (t : FileTree) : t.Extends t := ⟨.refl t, fun _ _ h => h⟩

theorem Extends.trans {t'' : FileTree} (h : t.Extends t') (h' : t'.Extends t'') : t.Extends t'' :=
  ⟨h.keeps.trans h'.keeps, fun place content hfile => h'.file place content (h.file place content hfile)⟩

theorem extends_of_createDirectory (hcreate : t.createDirectory p = .ok t') : t.Extends t' := by
  unfold createDirectory at hcreate
  cases hlocate : t.locate p with
  | error fault =>
      rw [hlocate] at hcreate
      cases hcreate
  | ok destination =>
      rw [hlocate] at hcreate
      simp only [bind, Except.bind] at hcreate
      cases destination with
      | directory place => cases hcreate
      | name parent name mustBeDirectory =>
          dsimp only at hcreate
          cases hentry : t.entry? (parent ++ [name]) with
          | some entry =>
              rw [hentry] at hcreate
              cases hcreate
          | none =>
              rw [hentry] at hcreate
              obtain rfl : t.put (parent ++ [name]) .directory = t' := by simpa using hcreate
              have hplace : parent ++ [name] ≠ [] := by simp
              refine ⟨keeps_put hplace (by simp [hentry]), fun place content hfile => ?_⟩
              have hne : place ≠ parent ++ [name] := by
                rintro rfl
                rw [hentry] at hfile
                cases hfile
              rw [entry?_put hplace, if_neg hne, hfile]

theorem extends_of_createLineage {lineage : List FilePath} (hcreate : t.createLineage lineage = .ok t') :
    t.Extends t' := by
  induction lineage generalizing t t' with
  | nil => cases hcreate
  | cons p parents ih =>
      unfold createLineage at hcreate
      -- A directory that is there already is no fault.
      have hexists {fault : FileFault} {u : FileTree}
          (h : (if u.isDirectory p then Except.ok u else Except.error fault) = .ok t') : u = t' := by
        split at h
        · simpa using h
        · cases h
      split at hcreate
      · obtain rfl : t = t' := by simpa using hcreate
        exact .refl t
      split at hcreate
      · rename_i made hmade
        obtain rfl : made = t' := by simpa using hcreate
        exact extends_of_createDirectory hmade
      · cases hparents : t.createLineage parents with
        | error fault =>
            rw [hparents] at hcreate
            cases hcreate
        | ok u =>
            rw [hparents] at hcreate
            simp only [bind, Except.bind] at hcreate
            split at hcreate
            · rename_i made hmade
              obtain rfl : made = t' := by simpa using hcreate
              exact (ih hparents).trans (extends_of_createDirectory hmade)
            · obtain rfl := hexists hcreate
              exact ih hparents
      · obtain rfl := hexists hcreate
        exact .refl t

theorem extends_of_createDirectories (hcreate : t.createDirectories p = .ok t') : t.Extends t' :=
  extends_of_createLineage hcreate

end SupplyRisk.FileTree
