import SupplyRisk.Command.Run

/-!
# Steps in a tree of files

`Commanding.runIn` carries out the steps of a command in a tree of files: what comes of them, and the tree that they
leave.  Steps come one after the other until one gives up, which keeps the tree as that step left it.
-/

namespace SupplyRisk.Commanding

variable {α β ε : Type} {t t' : FileTree}

def runIn (steps : Commanding (StateM FileTree) α) (t : FileTree) : Except CommandError α × FileTree :=
  steps.run.run t

@[simp] theorem runIn_pure (a : α) : runIn (pure a) t = (.ok a, t) := rfl

@[simp] theorem runIn_ofExcept (result : Except CommandError α) : runIn (ofExcept result) t = (result, t) := rfl

@[simp] theorem runIn_attempt (wrap : ε → CommandError) (step : StateM FileTree (Except ε α)) :
    runIn (attempt wrap step) t = ((step.run t).1.mapError wrap, (step.run t).2) := rfl

@[simp] theorem runIn_lift (step : StateM FileTree α) :
    runIn (ExceptT.lift step) t = (.ok (step.run t).1, (step.run t).2) := rfl

theorem runIn_bind (steps : Commanding (StateM FileTree) α) (more : α → Commanding (StateM FileTree) β) :
    runIn (steps >>= more) t =
      match runIn steps t with
      | (.ok a, t') => runIn (more a) t'
      | (.error e, t') => (.error e, t') := by
  simp only [runIn, ExceptT.run_bind, StateT.run_bind]
  rcases steps.run.run t with ⟨result, t'⟩
  cases result <;> rfl

/-- Steps go on where those before them ended. -/
theorem runIn_bind_of_ok {steps : Commanding (StateM FileTree) α} {a : α} (h : runIn steps t = (.ok a, t'))
    (more : α → Commanding (StateM FileTree) β) : runIn (steps >>= more) t = runIn (more a) t' := by
  rw [runIn_bind, h]

theorem runIn_bind_of_error {steps : Commanding (StateM FileTree) α} {e : CommandError}
    (h : runIn steps t = (.error e, t')) (more : α → Commanding (StateM FileTree) β) :
    runIn (steps >>= more) t = (.error e, t') := by
  rw [runIn_bind, h]

/-! ## Changes of files -/

variable {fault : FileFault} {change : FileTree → Except FileFault FileTree}

theorem runIn_update_of_ok (wrap : FileFault → CommandError) (hchange : change t = .ok t') :
    runIn (attempt wrap (FileTree.update change)) t = (.ok (), t') := by
  have hupdate : (FileTree.update change).run t = (.ok (), t') := by
    show FileTree.update change t = _
    rw [FileTree.update, hchange]
  rw [runIn_attempt, hupdate]
  rfl

/-- A change that is refused leaves the files as they are. -/
theorem runIn_update_of_error (wrap : FileFault → CommandError) (hchange : change t = .error fault) :
    runIn (attempt wrap (FileTree.update change)) t = (.error (wrap fault), t) := by
  have hupdate : (FileTree.update change).run t = (.error fault, t) := by
    show FileTree.update change t = _
    rw [FileTree.update, hchange]
  rw [runIn_attempt, hupdate]
  rfl

end SupplyRisk.Commanding
