import SupplyRisk.Proofs.Command.DataFile
import SupplyRisk.Proofs.Command.InPlace
import SupplyRisk.Proofs.Config.Discovery

/-!
# Commands on the data file and a store in memory

Each command loads the data file anew and, if it changes the store, saves it again.  The file nevertheless stands for
one store: a command that gives up, lists or exports leaves it as it was, and any other command makes the change in it
that it would make in a store that stays in memory (`GivenCommand.ActsOn`).  So any sequence of commands ends with the
store that the changes make of the first one, one after the other in memory (`commands_act_on_one_store`).

What is asked of the surroundings is that the files can be written, that exports go to other places than the data file
and that the numbers of the stores to be saved survive (`Fits`).
-/

namespace SupplyRisk

/-- A command, and the circumstances in which it is given. -/
structure GivenCommand where
  around : Surroundings
  workforce : Workforce
  config : Option FilePath
  command : DataCommand

/-- A change, with the configuration, the moment and the makers of it. -/
structure DatedChange where
  config : Config
  now : Instant
  workforce : Workforce
  change : Change

/-- What the change makes of a store in memory.  At the end of the calendar or of the numbers the program is gone; the
store is then taken to be the one before. -/
def DatedChange.on (d : DatedChange) (s : Store) : Store :=
  match d.change.inPlace d.config d.now d.workforce s with
  | (.error .calendar, _) => s
  | (_, s') => s'

theorem DatedChange.on_of_ok {d : DatedChange} {s s' : Store} {report : CommandReport}
    (happly : d.change.apply d.config d.now d.workforce s = .ok (report, s')) : d.on s = s' := by
  rw [Change.apply_eq_inPlace] at happly
  unfold on
  generalize d.change.inPlace d.config d.now d.workforce s = ended at happly ⊢
  obtain ⟨result, left⟩ := ended
  cases result with
  | error e => cases happly
  | ok report' =>
      cases happly
      rfl

theorem DatedChange.on_of_error {d : DatedChange} {s : Store} {e : CommandError}
    (happly : d.change.apply d.config d.now d.workforce s = .error e) : d.on s = s := by
  have hclean {e' : CommandError} (herror : (d.change.inPlace d.config d.now d.workforce s).1 = .error e') (h : e' ≠ .calendar) :=
    Change.inPlace_of_error herror h
  rw [Change.apply_eq_inPlace] at happly
  unfold on
  generalize d.change.inPlace d.config d.now d.workforce s = ended at happly hclean ⊢
  obtain ⟨result, left⟩ := ended
  cases result with
  | ok report => cases happly
  | error e' =>
      split
      · rfl
      · rename_i hother heq
        obtain ⟨rfl, rfl⟩ := Prod.mk.inj heq
        exact hclean rfl fun hcalendar => hother (by rw [hcalendar])

namespace Commanding

open FileTree

variable {t t' : FileTree} {data : FilePath} {s : Store}

/-! ## Steps that only read -/

theorem snd_run_load (p : FilePath) (t : FileTree) :
    ((Config.load p : StateM FileTree (Except RiskError Config)).run t).2 = t := by
  rw [Config.load, FileTree.run_read_bind]
  split
  · rfl
  · split <;> rfl

theorem snd_runIn_loadConfig (around : Surroundings) (given : Option FilePath) (t : FileTree) :
    (runIn (loadConfig around given) t).2 = t := by
  cases given with
  | none =>
      rw [loadConfig, runIn_bind, runIn_lift]
      dsimp only
      rw [runIn_pure, Config.discover]
      exact congrArg Prod.snd (Config.run_firstUsable_tree _ t)
  | some path =>
      rw [loadConfig, runIn_attempt]
      exact snd_run_load path t

theorem snd_runIn_readThresholds (path : FilePath) (format : Option ThresholdFormat) (t : FileTree) :
    (runIn (readThresholds path format) t).2 = t := rfl

/-! ## Steps beside the data file -/

theorem extends_runIn_ensureDirectory (path : FilePath) (t : FileTree) :
    t.Extends (runIn (ensureDirectory path) t).2 := by
  rw [ensureDirectory, runIn_bind, runIn_lift]
  dsimp only
  split
  · exact .refl t
  · rename_i hmissing
    rw [runIn_attempt]
    show t.Extends ((FileTree.update (·.createDirectories path)).run t).2
    unfold FileTree.update
    cases hcreate : t.createDirectories path with
    | error fault => simpa [StateT.run, hcreate] using Extends.refl t
    | ok made => simpa [StateT.run, hcreate] using extends_of_createDirectories hcreate

/-- The text of the data file after another path was written, with new directories for it. -/
theorem read_of_extends_write {u : FileTree} {path : FilePath} {content text : String}
    (hread : t.read data = .ok text) (hextends : t.Extends u) (hother : t.target path ≠ t.target data)
    (hwrite : u.write path content = .ok t') : t'.read data = .ok text := by
  obtain ⟨place, hnames, hentry⟩ := read_eq_ok_iff.1 hread
  obtain ⟨hkeeps, hrest⟩ := keeps_of_write hwrite
  have hfree : ¬ u.Names path place := by
    intro hpath
    rw [← target_of_keeps hextends.keeps (p := path), ← hpath.eq_target, ← hnames.eq_target] at hother
    exact hother rfl
  refine read_eq_ok_iff.2 ⟨place, hnames.of_keeps (hextends.keeps.trans hkeeps), ?_⟩
  rw [hrest place hfree, hextends.file place text hentry]

theorem read_of_extends {u : FileTree} {text : String} (hread : t.read data = .ok text) (hextends : t.Extends u) :
    u.read data = .ok text := by
  obtain ⟨place, hnames, hentry⟩ := read_eq_ok_iff.1 hread
  exact read_eq_ok_iff.2 ⟨place, hnames.of_keeps hextends.keeps, hextends.file place text hentry⟩

/-- Delivering records to another path than that of the data file leaves the data file as it was. -/
theorem read_runIn_deliver {text : String} (hread : t.read data = .ok text) (format : ExportFormat)
    (output : Option FilePath) (hother : ∀ path ∈ output, t.target path ≠ t.target data)
    (records : List ExportRecord) : (runIn (deliver format output records) t).2.read data = .ok text := by
  cases output with
  | none => exact hread
  | some path =>
      have hextends : t.Extends (runIn (ensureParent path) t).2 := by
        unfold ensureParent
        split
        · exact .refl t
        · exact .refl t
        · exact extends_runIn_ensureDirectory _ t
      rw [deliver, runIn_bind]
      generalize runIn (ensureParent path) t = made at hextends ⊢
      obtain ⟨result, u⟩ := made
      cases result with
      | error e => exact read_of_extends hread hextends
      | ok _ =>
          dsimp only
          cases hwrite : u.write path (ExportRecord.render format records) with
          | error fault =>
              have hrun : runIn (attempt (.creating path)
                  (FileAccess.write path (ExportRecord.render format records))) u = (.error (.creating path fault), u) :=
                runIn_update_of_error _ hwrite
              rw [runIn_bind_of_error hrun]
              exact read_of_extends hread hextends
          | ok t' =>
              have hrun : runIn (attempt (.creating path)
                  (FileAccess.write path (ExportRecord.render format records))) u = (.ok (), t') :=
                runIn_update_of_ok _ hwrite
              rw [runIn_bind_of_ok hrun]
              exact read_of_extends_write hread hextends (hother path rfl) hwrite

end Commanding

/-! ## One command -/

/-- The change that a command stands for; rows of thresholds come from their file. -/
def DataCommand.change? : DataCommand → Commanding (StateM FileTree) (Option Change)
  | assess request => return some (.assess request)
  | exportRecords _ _ => return none
  | importThresholds path format => do return some (.importThresholds (← Commanding.readThresholds path format))
  | alerts _ resolution => return resolution.map .resolveAlert
  | resolveEvent id notes => return some (.resolveEvent id notes)
  | reviewRecommendation id notes => return some (.reviewRecommendation id notes)

/-- Whether a command is there to change the store. -/
def DataCommand.changes : DataCommand → Bool
  | exportRecords _ _ => false
  | alerts _ none => false
  | _ => true

namespace GivenCommand

open Commanding FileTree

/-- Carries the command out on a data file in a tree of files. -/
def run (data : FilePath) (k : GivenCommand) (t : FileTree) : Except CommandError CommandReport × FileTree :=
  runIn (Command.run k.around k.config data k.workforce (.onData k.command)) t

/-- The change that the command stands for, if its configuration and its rows can be read. -/
def change? (k : GivenCommand) (t : FileTree) : Option DatedChange :=
  match (runIn (loadConfig k.around k.config) t).1, (runIn k.command.change? t).1 with
  | .ok config, .ok (some change) => some ⟨config, k.around.now, k.workforce, change⟩
  | _, _ => none

/-- An export goes to another place than the data file. -/
def Spares (data : FilePath) (k : GivenCommand) (t : FileTree) : Prop :=
  ∀ format path, k.command = .exportRecords format (some path) → t.target path ≠ t.target data

/-- What the command makes of a store in memory. -/
def on (k : GivenCommand) (t : FileTree) (s : Store) : Store :=
  match k.change? t with
  | some d => d.on s
  | none => s

/-- The command, given a store, has another one to save. -/
def Saves (k : GivenCommand) (t : FileTree) (s s' : Store) : Prop :=
  ∃ d report, k.change? t = some d ∧ d.change.apply d.config d.now d.workforce s = .ok (report, s')

instance (data : FilePath) (k : GivenCommand) (t : FileTree) : Decidable (k.Spares data t) :=
  match hcommand : k.command with
  | .exportRecords _ (some path) =>
      decidable_of_iff (t.target path ≠ t.target data) (by simp [Spares, hcommand])
  | .exportRecords _ none | .assess _ | .importThresholds _ _ | .alerts _ _ | .resolveEvent _ _
  | .reviewRecommendation _ _ => isTrue (by simp [Spares, hcommand])

/-- The store that the command has to save. -/
def saved? (k : GivenCommand) (t : FileTree) (s : Store) : Option Store :=
  (k.change? t).bind fun d => (d.change.apply d.config d.now d.workforce s).toOption.map (·.2)

theorem saves_iff {k : GivenCommand} {t : FileTree} {s s' : Store} : k.Saves t s s' ↔ k.saved? t s = some s' := by
  constructor
  · rintro ⟨d, report, hd, happly⟩
    rw [saved?, hd, Option.bind_some, happly]
    rfl
  · intro hsaved
    obtain ⟨d, hd, hsaved⟩ := Option.bind_eq_some_iff.1 hsaved
    cases happly : d.change.apply d.config d.now d.workforce s with
    | error e =>
        rw [happly] at hsaved
        cases hsaved
    | ok result =>
        rw [happly] at hsaved
        cases hsaved
        exact ⟨d, result.1, hd, happly⟩

instance (k : GivenCommand) (t : FileTree) (s : Store) : Decidable (∀ s', k.Saves t s s' → s'.Survives) :=
  decidable_of_iff (∀ s' ∈ k.saved? t s, s'.Survives) (by simp [saves_iff])

variable {data : FilePath} {k : GivenCommand} {t : FileTree} {s : Store}

/-- The command treats the data file as the store that it holds. -/
structure ActsOn (data : FilePath) (k : GivenCommand) (t : FileTree) (s : Store) : Prop where
  /-- When the command gives up, the data file is as it was. -/
  refused : ∀ e, (k.run data t).1 = .error e → (k.run data t).2.read data = t.read data
  /-- A command that does not change the store leaves the data file as it was. -/
  shown : k.command.changes = false → (k.run data t).2.read data = t.read data
  /-- When a command that changes the store reports, the data file holds what the change made of the store, and the
  report is that of the change. -/
  changed : k.command.changes = true → ∀ report, (k.run data t).1 = .ok report →
    ∃ d s', k.change? t = some d ∧ d.change.apply d.config d.now d.workforce s = .ok (report, s') ∧
      (k.run data t).2.HoldsStore data s'
  /-- A change that can be made is made. -/
  succeeds : ∀ d report s', k.change? t = some d → d.change.apply d.config d.now d.workforce s = .ok (report, s') →
    (k.run data t).1 = .ok report
  /-- A change that fails leaves a store in memory as it was, as long as the program goes on. -/
  clean : ∀ d e, k.change? t = some d → (d.change.inPlace d.config d.now d.workforce s).1 = .error e → e ≠ .calendar →
    (d.change.inPlace d.config d.now d.workforce s).2 = s

theorem clean_change? (k : GivenCommand) (t : FileTree) (s : Store) (d : DatedChange) (e : CommandError)
    (_ : k.change? t = some d) (herror : (d.change.inPlace d.config d.now d.workforce s).1 = .error e) (h : e ≠ .calendar) :
    (d.change.inPlace d.config d.now d.workforce s).2 = s := Change.inPlace_of_error herror h

theorem change?_eq_none (hchanges : k.command.changes = false) (t : FileTree) : k.change? t = none := by
  have hcommand : (runIn k.command.change? t).1 = .ok none := by
    cases hcommand : k.command with
    | exportRecords format output => rfl
    | alerts all resolution =>
        cases resolution with
        | none => rfl
        | some resolution =>
            rw [hcommand] at hchanges
            cases hchanges
    | _ =>
        rw [hcommand] at hchanges
        cases hchanges
  unfold change?
  rw [hcommand]
  split
  · rename_i heq
    cases heq
  · rfl

/-- A change is made on the loaded store and saved. -/
theorem ActsOn.of_change {d : DatedChange} (hsave : t.CanSave data) (hchange : k.change? t = some d)
    (hnow : d.now = k.around.now) (hworkforce : d.workforce = k.workforce)
    (hrun : k.run data t = runIn (change k.around k.workforce d.config data s d.change) t)
    (hchanges : k.command.changes = true) (hsurvive : ∀ s', k.Saves t s s' → s'.Survives) : k.ActsOn data t s := by
  rw [change, runIn_bind, runIn_ofExcept, ← hnow, ← hworkforce] at hrun
  cases happly : d.change.apply d.config d.now d.workforce s with
  | error e =>
      rw [happly] at hrun
      refine ⟨fun e' _ => by rw [hrun], fun h => by rw [hrun], fun _ report hreport => ?_,
        fun d' report s' hd' happly' => ?_, k.clean_change? t s⟩
      · rw [hrun] at hreport
        cases hreport
      · obtain rfl : d = d' := Option.some.inj (hchange.symm.trans hd')
        rw [happly] at happly'
        cases happly'
  | ok result =>
      obtain ⟨report, s'⟩ := result
      -- The changed store is saved, and a store whose numbers survive is read back as it is.
      obtain ⟨t', hsaved, hread, -⟩ := exists_saveData hsave s'
      rw [happly] at hrun
      dsimp only at hrun
      rw [runIn_bind_of_ok hsaved, runIn_pure] at hrun
      have hholds : t'.HoldsStore data s' :=
        ⟨s'.dataText, hread, Store.ofDataText?_dataText (hsurvive s' ⟨d, report, hchange, happly⟩)⟩
      refine ⟨fun e' herror => ?_, fun h => ?_, fun _ report' hreport => ?_, fun d' report' s'' hd' happly' => ?_,
        k.clean_change? t s⟩
      · rw [hrun] at herror
        cases herror
      · rw [hchanges] at h
        cases h
      · rw [hrun] at hreport
        cases hreport
        exact ⟨d, s', hchange, happly, by rw [hrun]; exact hholds⟩
      · obtain rfl : d = d' := Option.some.inj (hchange.symm.trans hd')
        rw [happly] at happly'
        cases happly'
        rw [hrun]

/-- A command without a change to make, which leaves the data file alone. -/
theorem ActsOn.of_read_eq (hchange : k.change? t = none) (hread : (k.run data t).2.read data = t.read data)
    (hends : k.command.changes = true → ∃ e, (k.run data t).1 = .error e) : k.ActsOn data t s := by
  refine ⟨fun _ _ => hread, fun _ => hread, fun hchanges report hreport => ?_, fun d report s' hd _ => ?_,
    k.clean_change? t s⟩
  · obtain ⟨e, herror⟩ := hends hchanges
    rw [herror] at hreport
    cases hreport
  · rw [hchange] at hd
    cases hd

/-- Carries the command out on a store that has been loaded. -/
def runOn (data : FilePath) (k : GivenCommand) (t : FileTree) (s : Store) :
    Except CommandError CommandReport × FileTree :=
  match (runIn (loadConfig k.around k.config) t).1 with
  | .ok config => runIn (onData k.around k.workforce config data s k.command) t
  | .error e => (.error e, t)

/-- A command works under its configuration on the store in the data file. -/
theorem run_of_holdsStore (hstore : t.HoldsStore data s) : k.run data t = k.runOn data t s := by
  have htree := snd_runIn_loadConfig k.around k.config t
  rw [run, runOn, Command.run, runIn_bind]
  generalize runIn (loadConfig k.around k.config) t = loaded at htree ⊢
  obtain ⟨result, t'⟩ := loaded
  obtain rfl : t' = t := htree
  cases result with
  | error e => rfl
  | ok config =>
      dsimp only
      rw [runIn_bind_of_ok (runIn_loadData_eq_ok_iff.2 ⟨hstore, rfl⟩)]

/-- **One command.**  On a data file that holds a store, a command acts on that store. -/
theorem actsOn (hstore : t.HoldsStore data s) (hsave : t.CanSave data) (hspares : k.Spares data t)
    (hsurvive : ∀ s', k.Saves t s s' → s'.Survives) : k.ActsOn data t s := by
  have hrun := run_of_holdsStore (k := k) hstore
  rw [runOn] at hrun
  cases hconfig : (runIn (loadConfig k.around k.config) t).1 with
  | error e =>
      rw [hconfig] at hrun
      have hchange : k.change? t = none := by simp only [change?, hconfig]
      exact .of_read_eq hchange (by rw [hrun]) fun _ => ⟨e, by rw [hrun]⟩
  | ok config =>
      rw [hconfig] at hrun
      dsimp only at hrun
      have hmakes {c : Change} (hc : (runIn k.command.change? t).1 = .ok (some c)) :
          k.change? t = some ⟨config, k.around.now, k.workforce, c⟩ := by simp only [change?, hconfig, hc]
      -- Most changes are known from the command alone; the rows of an import must be read first, and that may fail.
      obtain ⟨around, workforce, given, command⟩ := k
      cases command with
      | assess request => exact .of_change hsave (hmakes rfl) rfl rfl hrun rfl hsurvive
      | resolveEvent id notes => exact .of_change hsave (hmakes rfl) rfl rfl hrun rfl hsurvive
      | reviewRecommendation id notes => exact .of_change hsave (hmakes rfl) rfl rfl hrun rfl hsurvive
      | alerts all resolution =>
          cases resolution with
          | some resolution => exact .of_change hsave (hmakes rfl) rfl rfl hrun rfl hsurvive
          | none =>
              refine .of_read_eq (change?_eq_none rfl t) ?_ nofun
              rw [hrun, onData, runIn_bind, runIn_ofExcept]
              cases s.play (Script.ask .alerts) <;> rfl
      | exportRecords format output =>
          refine .of_read_eq (change?_eq_none rfl t) ?_ nofun
          obtain ⟨text, hread, -⟩ := hstore
          rw [hrun, onData, runIn_bind, runIn_ofExcept]
          cases s.play ExportRecord.collect with
          | error e => rfl
          | ok result =>
              dsimp only
              rw [hread]
              refine read_runIn_deliver hread format output (fun path hpath => ?_) result.1
              obtain rfl : output = some path := hpath
              exact hspares format path rfl
      | importThresholds path format =>
          have htree := snd_runIn_readThresholds path format t
          rw [onData, runIn_bind] at hrun
          cases hrows : runIn (readThresholds path format) t with
          | mk result t' =>
              rw [hrows] at htree hrun
              obtain rfl : t' = t := htree
              cases result with
              | error e =>
                  have hchange : change? ⟨around, workforce, given, .importThresholds path format⟩ t' = none := by
                    simp only [change?, hconfig, DataCommand.change?, runIn_bind, hrows]
                  exact .of_read_eq hchange (by rw [hrun]) fun _ => ⟨e, by rw [hrun]⟩
              | ok rows =>
                  have hchange : (runIn (DataCommand.change? (.importThresholds path format)) t').1 =
                      .ok (some (.importThresholds rows)) := by
                    simp only [DataCommand.change?, runIn_bind, hrows, runIn_pure]
                  exact .of_change hsave (hmakes hchange) rfl rfl hrun rfl hsurvive

/-- After the command the data file holds what the command makes of a store in memory. -/
theorem ActsOn.holdsStore (hacts : k.ActsOn data t s) (hstore : t.HoldsStore data s) :
    (k.run data t).2.HoldsStore data (k.on t s) := by
  have hkept (h : k.on t s = s) (hread : (k.run data t).2.read data = t.read data) :
      (k.run data t).2.HoldsStore data (k.on t s) := by
    rw [h]
    exact hstore.of_read_eq hread
  have hon {d : DatedChange} (hd : k.change? t = some d) : k.on t s = d.on s := by simp only [on, hd]
  cases hresult : (k.run data t).1 with
  | error e =>
      refine hkept ?_ (hacts.refused e hresult)
      cases hd : k.change? t with
      | none => simp only [on, hd]
      | some d =>
          rw [hon hd]
          cases happly : d.change.apply d.config d.now d.workforce s with
          | error e' => exact d.on_of_error happly
          | ok result =>
              have hok := hacts.succeeds d result.1 result.2 hd happly
              rw [hresult] at hok
              cases hok
  | ok report =>
      cases hchanges : k.command.changes with
      | true =>
          obtain ⟨d, s', hd, happly, hholds⟩ := hacts.changed hchanges report hresult
          rw [hon hd, d.on_of_ok happly]
          exact hholds
      | false =>
          refine hkept ?_ (hacts.shown hchanges)
          simp only [on, change?_eq_none hchanges t]

/-! ## Sequences of commands -/

/-- The tree of files after commands that are given one after the other. -/
def runAll (data : FilePath) : List GivenCommand → FileTree → FileTree
  | [], t => t
  | k :: ks, t => runAll data ks (k.run data t).2

/-- The changes that commands stand for, with the configurations and rows that are in their files at the time. -/
def changesOf (data : FilePath) : List GivenCommand → FileTree → List DatedChange
  | [], _ => []
  | k :: ks, t => (k.change? t).toList ++ changesOf data ks (k.run data t).2

/-- What is asked of the surroundings when commands are given: files can be written, exports go to other places than
the data file, and the numbers of stores that are saved survive. -/
def Fits (data : FilePath) : List GivenCommand → FileTree → Store → Prop
  | [], _, _ => True
  | k :: ks, t, s => t.CanSave data ∧ k.Spares data t ∧ (∀ s', k.Saves t s s' → s'.Survives) ∧
      Fits data ks (k.run data t).2 (k.on t s)

instance decidableFits (data : FilePath) : ∀ ks t s, Decidable (Fits data ks t s)
  | [], _, _ => isTrue trivial
  | k :: ks, t, s =>
      have := decidableFits data ks (k.run data t).2 (k.on t s)
      inferInstanceAs (Decidable (_ ∧ _ ∧ _ ∧ _))

theorem foldl_change? (k : GivenCommand) (t : FileTree) (s : Store) :
    (k.change? t).toList.foldl (fun s d => d.on s) s = k.on t s := by
  unfold on
  cases k.change? t <;> rfl

/-- The data file goes along with a store in memory. -/
theorem holdsStore_runAll {ks : List GivenCommand} (hstore : t.HoldsStore data s) (hfits : Fits data ks t s) :
    (runAll data ks t).HoldsStore data ((changesOf data ks t).foldl (fun s d => d.on s) s) := by
  induction ks generalizing t s with
  | nil => exact hstore
  | cons k ks ih =>
      obtain ⟨hsave, hspares, hsurvive, hrest⟩ := hfits
      have hnext := (actsOn hstore hsave hspares hsurvive).holdsStore hstore
      rw [changesOf, List.foldl_append, foldl_change?]
      exact ih hnext hrest

/-- **Commands act on one store.**  On a data file that holds a store, a command that gives up, lists or exports leaves
the file as it was; any other makes its change in the store, and the file holds what comes of that.  A sequence of
commands ends with the store that their changes, made one after the other in memory, make of the first one. -/
theorem commands_act_on_one_store (hstore : t.HoldsStore data s) :
    (∀ k : GivenCommand, t.CanSave data → k.Spares data t → (∀ s', k.Saves t s s' → s'.Survives) →
      k.ActsOn data t s) ∧
    ∀ ks, Fits data ks t s →
      (runAll data ks t).HoldsStore data ((changesOf data ks t).foldl (fun s d => d.on s) s) :=
  ⟨fun _ => actsOn hstore, fun _ => holdsStore_runAll hstore⟩

/-! ## Commands on a known store -/

/-- What is asked of the surroundings, if the store that each command finds is known from the commands before it. -/
def FitsKnown (data : FilePath) : List GivenCommand → FileTree → Store → Prop
  | [], _, _ => True
  | k :: ks, t, s => t.CanSave data ∧ k.Spares data t ∧ (∀ s', k.Saves t s s' → s'.Survives) ∧
      FitsKnown data ks (k.runOn data t s).2 (k.on t s)

instance decidableFitsKnown (data : FilePath) : ∀ ks t s, Decidable (FitsKnown data ks t s)
  | [], _, _ => isTrue trivial
  | k :: ks, t, s =>
      have := decidableFitsKnown data ks (k.runOn data t s).2 (k.on t s)
      inferInstanceAs (Decidable (_ ∧ _ ∧ _ ∧ _))

/-- The store that commands make of a known one. -/
def onAll (data : FilePath) : List GivenCommand → FileTree → Store → Store
  | [], _, s => s
  | k :: ks, t, s => onAll data ks (k.runOn data t s).2 (k.on t s)

/-- No command has to read the data file again to find the store that the commands before it have left. -/
theorem FitsKnown.follow {ks : List GivenCommand} (hstore : t.HoldsStore data s) (hfits : FitsKnown data ks t s) :
    Fits data ks t s ∧ (changesOf data ks t).foldl (fun s d => d.on s) s = onAll data ks t s := by
  induction ks generalizing t s with
  | nil => exact ⟨trivial, rfl⟩
  | cons k ks ih =>
      obtain ⟨hsave, hspares, hsurvive, hrest⟩ := hfits
      have hnext := (actsOn hstore hsave hspares hsurvive).holdsStore hstore
      have hrun := run_of_holdsStore (k := k) hstore
      obtain ⟨hlater, hends⟩ := ih hnext (hrun ▸ hrest)
      refine ⟨⟨hsave, hspares, hsurvive, hlater⟩, ?_⟩
      rw [changesOf, List.foldl_append, foldl_change?, hends, onAll, hrun]

def pumpText : String := "\x7b\"suppliers\":[[1,\"S\",\"Acme\"],[2,\"T\",\"Best\"]],\"parts\":[[7,\"P\",\"Pump\"]],
  \"supplier_parts\":[[1,7]],\"recommendations\":[[3,7,1,2,60,\"\"]]\x7d"

/-- A part with one supplier and an alternative for it in the data file, and a threshold and a configuration beside the
file. -/
def pumpFiles : FileTree where
  entries := [(["data.json"], .file pumpText), (["t.csv"], .file "kind,id,threshold\npart,7,5\n"),
    (["c.toml"], .file "[retry]\nmax_retries = 1\n")]
  current := []

def pumpStore : Store := (Store.ofDataText? pumpText).getD .empty

/-- Assesses the part, which opens an alert, exports the records, resolves the alert and its event, reviews the
alternative, fails to review another one and imports the threshold. -/
def pumpCommands : List GivenCommand :=
  [.assess { options := { partsOnly := true } }, .exportRecords .csv (some ⟨"out/r.csv"⟩),
    .alerts false (some ⟨⟨1⟩, some "buyer"⟩), .resolveEvent ⟨1⟩ "called", .reviewRecommendation ⟨3⟩ "",
    .reviewRecommendation ⟨4⟩ "", .importThresholds ⟨"t.csv"⟩ none].map
    (⟨⟨.midnight Store.sampleDay, ⟨"/"⟩, none⟩, {}, some ⟨"c.toml"⟩, ·⟩)

theorem pump_threshold_is_saved :
    pumpFiles.HoldsStore ⟨"data.json"⟩ pumpStore ∧ Fits ⟨"data.json"⟩ pumpCommands pumpFiles pumpStore ∧
      ∃ s, (runAll ⟨"data.json"⟩ pumpCommands pumpFiles).HoldsStore ⟨"data.json"⟩ s ∧
        s.partRisks.rows.map (·.level) = [.high] ∧
        s.alerts.rows.map (fun a => (a.isOpen, a.resolvedBy, a.event)) = [(false, some "buyer", some ⟨1⟩)] ∧
        s.events.rows.map (fun event => (event.resolved, event.resolutionNotes)) = [(true, "called")] ∧
        s.recommendations.rows.map (·.reviewed) = [true] ∧ s.parts.rows.map (·.lowStockThreshold) = [some 5] := by
  have hloaded : (Store.ofDataText? pumpText).isSome = true := by decide +kernel
  have hstore : pumpFiles.HoldsStore ⟨"data.json"⟩ pumpStore := by
    refine ⟨pumpText, by decide +kernel, ?_⟩
    obtain ⟨s, hs⟩ := Option.isSome_iff_exists.1 hloaded
    rw [pumpStore, hs, Option.getD_some]
  have hknown : FitsKnown ⟨"data.json"⟩ pumpCommands pumpFiles pumpStore := by decide +kernel
  obtain ⟨hfits, hends⟩ := hknown.follow hstore
  refine ⟨hstore, hfits, _, (commands_act_on_one_store hstore).2 pumpCommands hfits, ?_⟩
  rw [hends]
  decide +kernel

end GivenCommand

end SupplyRisk
