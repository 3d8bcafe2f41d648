import SupplyRisk.Config.Reading
import SupplyRisk.Toml.Reader

/-!
# Configuration texts

A configuration is written in TOML.  Weights that are not negative are rescaled to sum to one; what is wrong
otherwise refuses the text, with all problems in one message.
-/

namespace SupplyRisk.Config

/-- The name of a configuration file in a project. -/
def fileName : String := ".chainrisk.toml"

/-- Whether all weights are finite and not negative. -/
def hasProperWeights (w : Weights) : Bool := w.toList.all (fun x => x.isFinite && 0 ≤ x)

/-- The configuration after its weights are rescaled, or what is wrong with it. -/
def settle (c : Config) : Except String Config :=
  let w := c.scoring.weights
  if !hasProperWeights w then .error "scoring.weights must all be non-negative"
  else if w.sum ≤ 0 then .error "scoring.weights must not all be zero"
  else
    let settled := { c with scoring := { c.scoring with weights := w.normalize } }
    if settled.problems = [] then .ok settled
    else .error (String.intercalate "; " settled.problems)

/-- The configuration in a text, or what is wrong with it. -/
def ofText (text : String) : Except String Config :=
  match (Toml.read? text).bind Config.read? with
  | none => .error ("Failed to parse " ++ fileName)
  | some c => settle c

end SupplyRisk.Config
