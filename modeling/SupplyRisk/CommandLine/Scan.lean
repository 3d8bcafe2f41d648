import SupplyRisk.CommandLine.Grammar

/-!
# Scanning command lines

Arguments are taken one after the other.  A value that follows its option is settled only at the next option or
operand or at the end, so that an argument which is unknown is reported before the value in front of it is
looked at.
-/

namespace SupplyRisk.CommandLine

/-- What has been read of a command line. -/
structure Scan (σ : Type) where
  values : σ
  /-- The options and operands that count as given. -/
  given : List String := []
  /-- A slot that is not settled yet, with its value unless that is still to come. -/
  pending : Option (Slot σ × Option String) := none
  /-- The operands still to come. -/
  operands : List (Slot σ)
  /-- Whether only operands can follow. -/
  operandsOnly : Bool := false

namespace Scan

variable {σ : Type}

/-- Whether the next argument may be the value of an option. -/
def awaitsValue (s : Scan σ) : Bool :=
  match s.pending with
  | some (_, none) => true
  | _ => false

/-- Gives a slot its value. -/
def assign (s : Scan σ) (slot : Slot σ) (value : String) : Except UsageError (Scan σ) :=
  if slot.name ∈ s.given then .error .conflict
  else do
    let set ← slot.read value
    .ok { s with values := set s.values, given := slot.name :: s.given }

/-- Settles a pending slot. -/
def settle (s : Scan σ) : Except UsageError (Scan σ) :=
  match s.pending with
  | none => .ok s
  | some (_, none) => .error .invalidValue
  | some (slot, some value) => ({ s with pending := none }).assign slot value

/-- Leaves a slot pending. -/
def await (s : Scan σ) (slot : Slot σ) (value : Option String) : Except UsageError (Scan σ) := do
  .ok { ← s.settle with pending := some (slot, value) }

/-- An option that stands alone. -/
def mark (s : Scan σ) (name : String) : Action σ → Except UsageError (Scan σ)
  | .flag set =>
      if name ∈ s.given then .error .conflict
      else .ok { s with values := set s.values, given := name :: s.given }
  | .count add => .ok { s with values := add s.values, given := name :: s.given }
  | .value _ => .error .invalidValue
  | .ask answer => .error answer

end Scan

namespace Grammar

variable {σ : Type} (g : Grammar σ)

/-- The state before the first argument. -/
def start (values : σ) : Scan σ := { values, operands := g.operands }

/-- An option by its long name, with the value behind an equality sign. -/
def long (s : Scan σ) (body : List Char) : Except UsageError (Scan σ) :=
  let name := String.ofList (body.takeWhile (· ≠ '='))
  let attached := (body.dropWhile (· ≠ '=')).tail?.map String.ofList
  match g.options.find? (fun o => o.long = name), attached with
  | none, _ => .error .unknownArgument
  | some ⟨_, _, .value read⟩, none => s.await ⟨name, read⟩ none
  | some ⟨_, _, .value read⟩, some value => do (← s.settle).assign ⟨name, read⟩ value
  | some _, some _ => .error .unexpectedValue
  | some o, none => do (← s.settle).mark name o.action

/-- The value in the rest of a cluster, which an equality sign may introduce. -/
def clusterValue : List Char → List Char
  | '=' :: cs => cs
  | cs => cs

/-- A cluster of short options; one that takes a value takes the rest of the cluster. -/
def cluster (s : Scan σ) : List Char → Except UsageError (Scan σ)
  | [] => .ok s
  | c :: cs =>
      match g.options.find? (fun o => o.short = some c) with
      | none => .error .unknownArgument
      | some ⟨name, _, .value read⟩ =>
          if cs = [] then s.await ⟨name, read⟩ none
          else do (← s.settle).assign ⟨name, read⟩ (String.ofList (clusterValue cs))
      | some o => do cluster (← (← s.settle).mark o.long o.action) cs

/-- An argument that is no option. -/
def operand (s : Scan σ) (arg : String) : Except UsageError (Scan σ) :=
  match s.operands with
  | slot :: operands => do .ok { ← s.await slot (some arg) with operands }
  | [] =>
      if g.commands = [] ∨ s.operandsOnly ∧ arg ∈ g.commands then .error .unknownArgument
      else .error .unknownCommand

/-- Takes one argument. -/
def take (s : Scan σ) (arg : String) : Except UsageError (Scan σ) :=
  if s.operandsOnly then g.operand s arg
  else
    match arg.toList with
    | ['-', '-'] => .ok { s with operandsOnly := true }
    | '-' :: '-' :: body => g.long s body
    | '-' :: c :: cs => g.cluster s (c :: cs)
    | _ =>
        match s.pending with
        | some (slot, none) => .ok { s with pending := some (slot, some arg) }
        | _ => g.operand s arg

/-- Whether an argument is the name of a command. -/
def isCommand (s : Scan σ) (arg : String) : Bool :=
  !s.operandsOnly && !s.awaitsValue && g.commands.contains arg

/-- Takes arguments up to the name of a command, which is left with those behind it. -/
def scan (s : Scan σ) : List String → Except UsageError (Scan σ × List String)
  | [] => .ok (s, [])
  | arg :: args =>
      if g.isCommand s arg then .ok (s, arg :: args)
      else do scan (← g.take s arg) args

/-- Takes all arguments, none of which names a command. -/
def read (values : σ) (args : List String) : Except UsageError σ := do
  let (s, _) ← g.scan (g.start values) args
  return (← s.settle).values

end Grammar

end SupplyRisk.CommandLine
