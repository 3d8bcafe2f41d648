import SupplyRisk.Error

/-!
# Retry policy

Conflicts and transient failures are repeated, each up to a number of times of its own.  The delay before a
repetition is constant or grows linearly or exponentially, up to a limit.
-/

namespace SupplyRisk

inductive RetryStrategy where
  | constant
  | linear
  | exponential
deriving DecidableEq

namespace RetryStrategy

def text : RetryStrategy → String
  | constant => "constant"
  | linear => "linear"
  | exponential => "exponential"

def ofText? : String → Option RetryStrategy
  | "constant" => some constant
  | "linear" => some linear
  | "exponential" => some exponential
  | _ => none

end RetryStrategy

structure RetryPolicy where
  enabled : Bool := true
  maxRetries : UInt32 := 3
  transientRetries : UInt32 := 1
  baseDelayMs : UInt64 := 25
  strategy : RetryStrategy := .exponential
  maxDelayMs : UInt64 := 1000
deriving DecidableEq

namespace RetryPolicy

/-- Nothing is repeated. -/
def disabled : RetryPolicy := { enabled := false }

/-- Repetitions follow without a delay. -/
def immediate : RetryPolicy := { baseDelayMs := 0 }

/-- Milliseconds before a repetition, in words.  A power or product that no word holds is cut off at the greatest
word. -/
def delayWord (p : RetryPolicy) (attempt : UInt32) : UInt64 :=
  let n := (max attempt 1).toUInt64
  let wanted := match p.strategy with
    | .constant => p.baseDelayMs
    | .linear => Word.saturatingMul p.baseDelayMs n
    | .exponential =>
        Word.saturatingMul p.baseDelayMs ((Word.shiftLeft? 1 (n - 1).toUInt32).getD Word.greatest64)
  min wanted p.maxDelayMs

/-- Milliseconds before a repetition, which are counted from one. -/
def delay (p : RetryPolicy) (attempt : UInt32) : Nat := (p.delayWord attempt).toNat

/-- Whether an error earns a repetition after so many conflicts and transient failures. -/
def allows (p : RetryPolicy) (error : RiskError) (conflicts transients : Nat) : Bool :=
  p.enabled &&
    match error with
    | .conflict _ _ _ => decide (conflicts < p.maxRetries.toNat)
    | .transient _ => decide (transients < p.transientRetries.toNat)
    | _ => false

end RetryPolicy

end SupplyRisk
