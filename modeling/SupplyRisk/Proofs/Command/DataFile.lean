import SupplyRisk.Proofs.Command.Steps
import SupplyRisk.Proofs.Files.Tree
import SupplyRisk.Proofs.Store.DataText

/-!
# Saving and loading the data file

Where the data file and the draft beside it can be written, saving a store succeeds and leaves its text in the data
file; every directory and every file but these two stays as it was (`exists_saveData`).  Loading the file again gives
the saved store, and saving a loaded store changes nothing about what is loaded (`dataFile_round_trip`).
-/

namespace SupplyRisk

namespace FileTree

/-- The data file and the draft beside it can be written. -/
structure CanSave (t : FileTree) (data : FilePath) : Prop where
  file : t.CanWrite data
  draft : t.CanWrite (data.withExtension "json.tmp")

instance (t : FileTree) (data : FilePath) : Decidable (t.CanSave data) :=
  decidable_of_iff (t.CanWrite data ∧ t.CanWrite (data.withExtension "json.tmp"))
    ⟨fun ⟨h, h'⟩ => ⟨h, h'⟩, fun ⟨h, h'⟩ => ⟨h, h'⟩⟩

/-- The data file holds a store. -/
def HoldsStore (t : FileTree) (data : FilePath) (s : Store) : Prop :=
  ∃ text, t.read data = .ok text ∧ Store.ofDataText? text = some s

variable {t t' : FileTree} {data : FilePath} {s : Store}

theorem HoldsStore.of_read_eq (h : t.HoldsStore data s) (hread : t'.read data = t.read data) :
    t'.HoldsStore data s := by
  obtain ⟨text, hdata, hstore⟩ := h
  exact ⟨text, hread.trans hdata, hstore⟩

end FileTree

namespace Commanding

open FileTree

variable {t t' : FileTree} {data : FilePath} {s : Store}

theorem runIn_loadData (t : FileTree) (data : FilePath) :
    runIn (loadData data) t = ((storeOf data (t.read data)).mapError (.loadingData data), t) := rfl

theorem storeOf_eq_ok_iff {contents : Except FileFault String} :
    storeOf data contents = .ok s ↔ ∃ text, contents = .ok text ∧ Store.ofDataText? text = some s := by
  cases contents with
  | error fault => cases fault <;> simp [storeOf]
  | ok text =>
      cases hstore : Store.ofDataText? text with
      | none => simp [storeOf, hstore]
      | some found => simp [storeOf, hstore]

/-- Loading gives the store that the data file holds, and changes no file. -/
theorem runIn_loadData_eq_ok_iff : runIn (loadData data) t = (.ok s, t') ↔ t.HoldsStore data s ∧ t' = t := by
  rw [runIn_loadData, HoldsStore, ← @storeOf_eq_ok_iff data, Prod.mk.injEq, eq_comm (a := t')]
  cases storeOf data (t.read data) with
  | error e => exact ⟨fun h => (nomatch h.1), fun h => (nomatch h.1)⟩
  | ok found =>
      refine and_congr ⟨fun h => ?_, fun h => ?_⟩ Iff.rfl
      · cases h
        rfl
      · cases h
        rfl

/-- Saving writes the text of the store into the data file and changes nothing else, but for the draft. -/
theorem exists_saveData (hsave : t.CanSave data) (s : Store) :
    ∃ t', runIn (saveData data s) t = (.ok (), t') ∧ t'.read data = .ok s.dataText ∧ t'.CanSave data ∧ t.Keeps t' ∧
      ∀ place, ¬ t.Names data place → ¬ t.Names (data.withExtension "json.tmp") place →
        t'.entry? place = t.entry? place := by
  obtain ⟨⟨place, hdata, hfree⟩, ⟨draft, hdraft, hdraftFree⟩⟩ := hsave
  -- The draft is written first and then moved over the data file.
  obtain ⟨t₁, hwrite, hkeeps₁, hwritten, hrest₁⟩ := write_of_names hdraft hdraftFree s.dataText
  have hfree₁ : t₁.entry? place ≠ some .directory := by
    by_cases hsame : place = draft
    · rw [hsame, hwritten]
      exact nofun
    · rw [hrest₁ place hsame]
      exact hfree
  obtain ⟨t₂, hrename, hkeeps₂, hmoved, hdraftFree₂, hrest₂⟩ :=
    rename_of_names (hdraft.of_keeps hkeeps₁) (hdata.of_keeps hkeeps₁) hwritten hfree₁
  have hkeeps := hkeeps₁.trans hkeeps₂
  have hfirst : runIn (attempt (.savingData data) (FileAccess.write (data.withExtension "json.tmp") s.dataText)) t =
      (.ok (), t₁) := runIn_update_of_ok _ hwrite
  have hsecond : runIn (attempt (.savingData data) (FileAccess.rename (data.withExtension "json.tmp") data)) t₁ =
      (.ok (), t₂) := runIn_update_of_ok _ hrename
  refine ⟨t₂, by rw [saveData, runIn_bind_of_ok hfirst, hsecond],
    read_eq_ok_iff.2 ⟨place, hdata.of_keeps hkeeps, hmoved⟩,
    ⟨⟨place, hdata.of_keeps hkeeps, by simp [hmoved]⟩, ⟨draft, hdraft.of_keeps hkeeps, hdraftFree₂⟩⟩, hkeeps,
    fun other hother hother' => ?_⟩
  have hne : other ≠ place := fun h => hother (h ▸ hdata)
  have hne' : other ≠ draft := fun h => hother' (h ▸ hdraft)
  rw [hrest₂ other hne' hne, hrest₁ other hne']

/-- A saved store whose numbers survive is loaded again. -/
theorem exists_save_load (hsave : t.CanSave data) (hs : s.Survives) :
    ∃ t', runIn (saveData data s) t = (.ok (), t') ∧ runIn (loadData data) t' = (.ok s, t') := by
  obtain ⟨t', hrun, hread, -⟩ := exists_saveData hsave s
  exact ⟨t', hrun, runIn_loadData_eq_ok_iff.2 ⟨⟨s.dataText, hread, Store.ofDataText?_dataText hs⟩, rfl⟩⟩

/-- **Round trip of the data file.**  Where it can be written, a store whose numbers survive is saved and loaded again
as it was.  A data file that is accepted at all, in whatever spelling, is loaded as a store that holds what the file
lists; if the numbers of that store survive, it is loaded again after it was saved. -/
theorem dataFile_round_trip (hsave : t.CanSave data) :
    (∀ s : Store, s.Survives →
      ∃ t', runIn (saveData data s) t = (.ok (), t') ∧ runIn (loadData data) t' = (.ok s, t')) ∧
    ∀ s : Store, (runIn (loadData data) t).1 = .ok s →
      (∃ text listed, t.read data = .ok text ∧ Snapshot.parse? text = some listed ∧ s.HoldsListed listed) ∧
      (s.Survives →
        ∃ t', runIn (saveData data s) t = (.ok (), t') ∧ runIn (loadData data) t' = (.ok s, t')) := by
  refine ⟨fun s hs => exists_save_load hsave hs, fun s hload => ⟨?_, fun hs => exists_save_load hsave hs⟩⟩
  have hstep : runIn (loadData data) t = (.ok s, t) := Prod.ext hload rfl
  obtain ⟨⟨text, hread, hstore⟩, -⟩ := runIn_loadData_eq_ok_iff.1 hstep
  obtain ⟨listed, hlisted, rfl⟩ := Option.map_eq_some_iff.1 hstore
  exact ⟨text, listed, hread, hlisted, Store.holdsListed_ofSnapshot listed⟩

/-- A data file with a supplier listed twice, an unknown field and defaults left out. -/
def untidyFile : FileTree where
  entries := [(["data.json"], .file "\x7b\"suppliers\":[\x7b\"id\":2,\"code\":\"B\",\"name\":\"Beta\",\"x\":[]\x7d,\x7b\"id\":1,
    \"code\":\"A\",\"name\":\"Old\"\x7d,[1,\"A\",\"Alpha\"]],\"stock_items\":[\x7b\"part\":7,\"quantity\":25e-1\x7d]\x7d")]
  current := []

theorem untidy_file_round_trips :
    untidyFile.CanSave ⟨"data.json"⟩ ∧
      ∃ s : Store, (runIn (loadData ⟨"data.json"⟩) untidyFile).1 = .ok s ∧ s.Survives ∧
        s.suppliers.rows.map (·.name) = ["Alpha", "Beta"] ∧
        ∃ t', runIn (saveData ⟨"data.json"⟩ s) untidyFile = (.ok (), t') ∧
          runIn (loadData ⟨"data.json"⟩) t' = (.ok s, t') := by
  have hsave : untidyFile.CanSave ⟨"data.json"⟩ := by decide +kernel
  have hloaded : (match (runIn (loadData ⟨"data.json"⟩) untidyFile).1 with
      | .ok s => decide (s.Survives ∧ s.suppliers.rows.map (·.name) = ["Alpha", "Beta"])
      | .error _ => false) = true := by decide +kernel
  cases hload : (runIn (loadData ⟨"data.json"⟩) untidyFile).1 with
  | error e => simp [hload] at hloaded
  | ok s =>
      rw [hload] at hloaded
      obtain ⟨hs, hnames⟩ := of_decide_eq_true hloaded
      exact ⟨hsave, s, rfl, hs, hnames, ((dataFile_round_trip hsave).2 s hload).2 hs⟩

end Commanding

end SupplyRisk
