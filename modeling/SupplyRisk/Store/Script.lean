import SupplyRisk.Store.Fault

/-!
# Scripts of store calls

An operation of the engine is a `Script`: a tree that says which store call comes next, depending on the
answers so far.  `Script.run` plays it against a store.  Because a script is a value, its calls can also be
interleaved with those of other scripts.  A script stops early with an error, or when a date leaves the
calendar; and its play comes to a halt where a call finds no number or version left.
-/

namespace SupplyRisk

/-- Why an operation comes to a halt. -/
inductive Halt where
  | failure (error : RiskError)
  /-- A date or instant would leave the supported range. -/
  | calendar
  /-- There is no next number or version. -/
  | word
deriving DecidableEq

/-- What the caller of an operation makes of its halt. -/
inductive Stop where
  | failure (error : RiskError)
  /-- A value would leave its range. -/
  | calendar
deriving DecidableEq

/-- The ranges are all one to a caller, who cannot go on at the end of any of them. -/
def Halt.stop : Halt → Stop
  | failure e => .failure e
  | calendar | word => .calendar

instance : Coe Halt Stop := ⟨Halt.stop⟩

inductive Script (α : Type) where
  | done (a : α)
  | stop (cause : Halt)
  | call (c : StoreCall) (next : Except RiskError c.Answer → Script α)

namespace Script

variable {α β : Type}

def bind : Script α → (α → Script β) → Script β
  | done a, f => f a
  | stop cause, _ => stop cause
  | call c next, f => call c (fun answer => (next answer).bind f)

instance : Monad Script where
  pure := done
  bind := bind

def fail (e : RiskError) : Script α := stop (.failure e)

def ofExcept : Except RiskError α → Script α
  | .ok a => done a
  | .error e => fail e

/-- A value that is missing when it would leave the calendar. -/
def inCalendar : Option α → Script α
  | some a => done a
  | none => stop .calendar

/-- A call whose failure ends the script. -/
def ask (c : StoreCall) : Script c.Answer := call c ofExcept

/-- A call whose failure is an answer. -/
def attempt (c : StoreCall) : Script (Except RiskError c.Answer) := call c done

/-- Goes on after an error as `handle` says. -/
def recover : Script α → (RiskError → Script α) → Script α
  | done a, _ => done a
  | stop (.failure e), handle => handle e
  | stop cause, _ => stop cause
  | call c next, handle => call c (fun answer => (next answer).recover handle)

/-- Plays a script against a store; what was written before it stopped stays written. -/
def run : Script α → FaultyStore → Except Halt α × FaultyStore
  | done a, f => (.ok a, f)
  | stop cause, f => (.error cause, f)
  | call c next, f =>
      if f.hasRoom c then (next (f.perform c).1).run (f.perform c).2 else (.error .word, f.giveUp c)

end Script

end SupplyRisk
