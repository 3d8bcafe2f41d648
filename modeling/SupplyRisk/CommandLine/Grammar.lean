import SupplyRisk.Word

/-!
# Grammar of command lines

A command line is a list of arguments.  An argument is an option with two dashes and a long name, a cluster of
short options behind one dash, the value of the option before it, an operand or the name of a command; behind
`--` every argument is an operand.  A `Grammar` says which options and operands there are and what each does to
the values that are being collected.
-/

namespace SupplyRisk.CommandLine

/-- Why a command line is refused, or what it asks for in place of a command. -/
inductive UsageError where
  | unknownArgument
  | unknownCommand
  | missingCommand
  /-- There are no arguments at all. -/
  | empty
  | missingArgument
  /-- An option is repeated, or excludes another one. -/
  | conflict
  /-- An option that takes no value has one. -/
  | unexpectedValue
  /-- A value is missing or none of those allowed. -/
  | invalidValue
  /-- A value does not denote what it has to. -/
  | malformedValue
  | help
  | version
deriving DecidableEq

/-- Reads a value and says what it does to the values collected so far. -/
abbrev ValueReader (σ : Type) := String → Except UsageError (σ → σ)

/-- What takes a value: an option with a value, or an operand. -/
structure Slot (σ : Type) where
  name : String
  read : ValueReader σ

inductive Action (σ : Type) where
  /-- Stands alone and may be given once. -/
  | flag (set : σ → σ)
  /-- Stands alone and may be repeated. -/
  | count (add : σ → σ)
  | value (read : ValueReader σ)
  /-- Asks for something in place of a command. -/
  | ask (answer : UsageError)

structure OptionSpec (σ : Type) where
  /-- The long name, without dashes. -/
  long : String
  short : Option Char
  action : Action σ

structure Grammar (σ : Type) where
  options : List (OptionSpec σ)
  operands : List (Slot σ) := []
  /-- The names at which the command line goes over to another grammar. -/
  commands : List String := []

namespace Action

variable {σ τ : Type}

/-- The action on a part of the values. -/
def lift (on : (σ → σ) → τ → τ) : Action σ → Action τ
  | flag set => flag (on set)
  | count add => count (on add)
  | value read => value (fun text => (read text).map on)
  | ask answer => ask answer

end Action

/-- The option on a part of the values. -/
def OptionSpec.lift {σ τ : Type} (on : (σ → σ) → τ → τ) (o : OptionSpec σ) : OptionSpec τ :=
  ⟨o.long, o.short, o.action.lift on⟩

namespace ValueReader

variable {σ : Type}

/-- A text, which may be empty. -/
def text (set : String → σ → σ) : ValueReader σ := fun value => .ok (set value)

/-- One of several words. -/
def choice {α : Type} (ofText? : String → Option α) (set : α → σ → σ) : ValueReader σ :=
  fun value =>
    match ofText? value with
    | some a => .ok (set a)
    | none => .error .invalidValue

/-- The number in decimal digits behind an optional plus sign, if a word of 64 bits holds it. -/
def number? (value : String) : Option UInt64 :=
  let digits :=
    match value.toList with
    | '+' :: cs => cs
    | cs => cs
  if digits = [] ∨ !digits.all Char.isDigit then none
  else
    let n := digits.foldl (fun n c => n * 10 + (c.toNat - '0'.toNat)) 0
    if n < Word.count64 then some (UInt64.ofNat n) else none

def number (set : UInt64 → σ → σ) : ValueReader σ :=
  fun value =>
    match number? value with
    | some n => .ok (set n)
    | none => .error .malformedValue

end ValueReader

end SupplyRisk.CommandLine
