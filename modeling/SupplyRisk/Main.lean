import Std.Time.DateTime.Timestamp
import SupplyRisk.Command.Run
import SupplyRisk.CommandLine.Help

/-!
# The program

Connects commands with the files, the clock and the environment of the machine.
-/

namespace SupplyRisk.Machine

/-- The fault that the operating system reports. -/
def faultOf : IO.Error → FileFault
  | .noFileOrDirectory .. => .notFound
  | .alreadyExists .. => .exists
  | .inappropriateType _ code _ => if code = 21 then .isDirectory else .notDirectory
  | e => .other (toString e)

/-- Work whose faults are answers. -/
def attempt {α : Type} (work : IO α) : IO (Except FileFault α) := do
  try
    return .ok (← work)
  catch e =>
    return .error (faultOf e)

instance : FileAccess IO where
  read p := do
    match ← attempt (IO.FS.readBinFile ⟨p.text⟩) with
    | .error fault => return .error fault
    | .ok bytes =>
        match String.fromUTF8? bytes with
        | some text => return .ok text
        | none => return .error .notText
  write p content := attempt (IO.FS.writeFile ⟨p.text⟩ content)
  rename source target := attempt (IO.FS.rename ⟨source.text⟩ ⟨target.text⟩)
  createDirectories p := attempt (IO.FS.createDirAll ⟨p.text⟩)
  «exists» p := do ((← IO.currentDir) / p.text).pathExists

/-- A setting in the environment, unless it is empty. -/
def setting? (name : String) : IO (Option String) := do
  return (← IO.getEnv name).filter (· ≠ "")

/-- The configuration file of the user. -/
def userConfig : IO (Option FilePath) := do
  let given := ((← setting? "XDG_CONFIG_HOME").map FilePath.mk).filter FilePath.isAbsolute
  let home := (← setting? "HOME").map (fun home => FilePath.join ⟨home⟩ ⟨".config"⟩)
  return (given.or home).map Config.userFile

/-- The present time; the start of 1970 if the clock is out of range. -/
def now : IO Instant := do
  let time ← Std.Time.Timestamp.now
  let nanos := time.toNanosecondsSinceUnixEpoch.val
  let instant := Instant.ofParts? (nanos / billion) (nanos % billion).toNat
  return instant.getD (.midnight ⟨0, by decide, by decide⟩)

def surroundings : IO Surroundings := do
  return {
    now := ← now
    directory := ⟨(← IO.currentDir).toString⟩
    userConfig := ← userConfig }

/-- The options that the environment gives. -/
def environmentOptions : IO CommandLine.SharedOptions := do
  return {
    config := (← setting? "CHAINRISK_CONFIG").map FilePath.mk
    data := (← setting? "CHAINRISK_DATA").map FilePath.mk }

/-- Carries out a command line and says with which code the program ends. -/
def perform (i : CommandLine.Invocation) : IO UInt32 := do
  let started ← IO.monoMsNow
  match ← (i.command.run (← surroundings) i.config i.data).run with
  | .ok report =>
      IO.print (report.timed ((← IO.monoMsNow) - started)).text
      return 0
  | .error e =>
      IO.eprintln ("Error: " ++ String.intercalate "\n  caused by: " e.causes)
      return 1

/-- Answers a command line that asks for no command. -/
def refuse : CommandLine.UsageError → IO UInt32
  | .help => do
      IO.print CommandLine.helpText
      return 0
  | .version => do
      IO.print CommandLine.versionText
      return 0
  | e => do
      IO.eprint ("error: " ++ e.message ++ "\n\n" ++ CommandLine.helpText)
      return 2

end SupplyRisk.Machine

def main (args : List String) : IO UInt32 := do
  match SupplyRisk.CommandLine.readWith (← SupplyRisk.Machine.environmentOptions) args with
  | .ok i => SupplyRisk.Machine.perform i
  | .error e => SupplyRisk.Machine.refuse e
