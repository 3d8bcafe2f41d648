import SupplyRisk.Files.Tree

/-!
# Working with files

Commands reach files only through `FileAccess`.  A `FileTree` that is passed along gives one interpretation of
it, the files of the machine another.
-/

namespace SupplyRisk

/-- Access to files in a monad. -/
class FileAccess (m : Type → Type) where
  read : FilePath → m (Except FileFault String)
  write : FilePath → String → m (Except FileFault Unit)
  rename : FilePath → FilePath → m (Except FileFault Unit)
  createDirectories : FilePath → m (Except FileFault Unit)
  «exists» : FilePath → m Bool

namespace FileTree

/-- A change that may be refused, in which case the tree stays as it is. -/
def update (change : FileTree → Except FileFault FileTree) : StateM FileTree (Except FileFault Unit) :=
  fun t =>
    match change t with
    | .ok t => (.ok (), t)
    | .error fault => (.error fault, t)

instance : FileAccess (StateM FileTree) where
  read p := fun t => (t.read p, t)
  write p content := update (·.write p content)
  rename source target := update (·.rename source target)
  createDirectories p := update (·.createDirectories p)
  «exists» p := fun t => (t.exists p, t)

end FileTree

end SupplyRisk
