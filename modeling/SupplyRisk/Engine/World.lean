import SupplyRisk.Alert.Dispatch
import SupplyRisk.Engine.Retry
import SupplyRisk.Engine.Summary
import SupplyRisk.Engine.Tracker

/-!
# Steps of a run

What a run works on is its `World`, and its steps are `Running`.  Work is done in a scope, with a changed context, or
on another thread, with a context of its own; the context that was there before comes back however the work ends.
-/

namespace SupplyRisk

/-- What a run works on: the store, the tracker and the notifications that the sink has accepted. -/
structure World where
  backend : FaultyStore
  tracker : Tracker := {}
  received : List Notification := []

/-- Steps of a run; what was done before a halt stays done. -/
abbrev Running := EStateM Halt World

namespace Running

variable {α : Type}

/-- Plays a script against the store. -/
def play (script : Script α) : Running α := fun w =>
  match script.run w.backend with
  | (.ok a, backend) => .ok a { w with backend }
  | (.error cause, backend) => .error cause { w with backend }

/-- Work in a scope with a changed context; the context before it comes back however the work ends. -/
def within (change : Context → Context) (work : Running α) : Running α := fun w =>
  let context := w.tracker.context
  let leave := fun w : World => { w with tracker := { w.tracker with context } }
  match work { w with tracker := { w.tracker with context := change context } } with
  | .ok a w => .ok a (leave w)
  | .error cause w => .error cause (leave w)

/-- Work on a thread with a context of its own, which is returned; the context of the caller is left alone. -/
def onThread (context : Context) (work : Running α) : Running (α × Context) := fun w =>
  let caller := w.tracker.context
  let back := fun w : World => { w with tracker := { w.tracker with context := caller } }
  match work { w with tracker := { w.tracker with context } } with
  | .ok a w => .ok (a, w.tracker.context) (back w)
  | .error cause w => .error cause (back w)

def track (change : Tracker → Tracker) : Running Unit :=
  modify (fun w => { w with tracker := change w.tracker })

/-- The answer of a call that lists targets; a failure names what could not be listed. -/
def enumerate (target : String) (c : StoreCall) : Running c.Answer :=
  play ((Script.ask c).recover (fun e => Script.fail (.enumerating target e)))

end Running

end SupplyRisk
