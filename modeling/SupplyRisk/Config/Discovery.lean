import SupplyRisk.Config.Loading
import SupplyRisk.Error
import SupplyRisk.Files.Access

/-!
# Finding the configuration

Without a given file, the nearest usable configuration counts: that of the start directory or of its parents,
at most ten directories in all, and then that of the user.  Files that cannot be read or are refused are
passed over.  A file that is given by its path must be usable.
-/

namespace SupplyRisk.Config

/-- How many directories are searched. -/
def searchDepth : Nat := 10

/-- The configuration files to try, in order. -/
def candidates (start : FilePath) (user : Option FilePath) : List FilePath :=
  (start.ancestors searchDepth).map (·.join ⟨fileName⟩) ++ user.toList

/-- The configuration in the contents of a file, if they are there and accepted. -/
def usable? (contents : Except FileFault String) : Option Config :=
  match contents with
  | .ok text => (ofText text).toOption
  | .error _ => none

/-- The user's configuration file below the directory for configurations. -/
def userFile (directory : FilePath) : FilePath := (directory.join ⟨"chainrisk"⟩).join ⟨"config.toml"⟩

section

variable {m : Type → Type} [Monad m] [FileAccess m]

/-- The configuration in the first usable file. -/
def firstUsable : List FilePath → m (Option Config)
  | [] => return none
  | p :: ps => do
      match usable? (← FileAccess.read p) with
      | some c => return some c
      | none => firstUsable ps

/-- The nearest usable configuration. -/
def discover (start : FilePath) (user : Option FilePath) : m (Option Config) :=
  firstUsable (candidates start user)

/-- The configuration in a file, or what is wrong with the file. -/
def load (p : FilePath) : m (Except RiskError Config) := do
  match ← FileAccess.read p with
  | .error fault => return .error (.config ("Failed to read " ++ p.text ++ ": " ++ fault.message))
  | .ok text =>
      match ofText text with
      | .ok c => return .ok c
      | .error message => return .error (.config message)

end

end SupplyRisk.Config
