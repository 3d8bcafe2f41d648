import SupplyRisk.Failure

/-!
# Errors in JSON

An error stands as an object with the name of its cause and what the cause needs; texts that are missing are
empty.  A failed listing holds the error that it comes from.
-/

namespace SupplyRisk

open Document (text? int64? uint64?)

theorem Json.sizeOf_lt_of_mem {key : String} {v : Json} {members : List (String × Json)}
    (h : (key, v) ∈ members) : sizeOf v < sizeOf (Json.object members) := by
  have := List.sizeOf_lt_of_mem h
  simp only [Prod.mk.sizeOf_spec, Json.object.sizeOf_spec] at *
  omega

theorem Json.sizeOf_member?_lt {j v : Json} {key : String} (h : j.member? key = some v) :
    sizeOf v < sizeOf j := by
  unfold Json.member? at h
  split at h
  · obtain ⟨⟨k, w⟩, found, rfl⟩ := Option.map_eq_some_iff.1 h
    exact Json.sizeOf_lt_of_mem (List.mem_reverse.1 (List.mem_of_find?_eq_some found))
  · cases h

namespace RiskError

/-- The text of a field, empty where it is missing. -/
def textOf? (j : Json) (name : String) : Option String :=
  match j.member? name with
  | some v => text? v
  | none => some ""

/-- An error whose cause holds no other error. -/
def ofKind? (kind message : String) (j : Json) : Option RiskError :=
  let field := fun {α : Type} (name : String) (read : Json → Option α) => (j.member? name).bind read
  match kind with
  | "not_found" => do some (.notFound (← field "entity" EntityRef.read?))
  | "record_not_found" => some (.recordNotFound message)
  | "validation" => do some (.validation (← textOf? j "field") message)
  | "out_of_range" => do
      some (.outOfRange (← textOf? j "field") (← field "value" int64?) (← field "min" int64?)
        (← field "max" int64?))
  | "transient" => some (.transient message)
  | "conflict" => do
      some (.conflict (← field "entity" EntityRef.read?) (← field "expected" uint64?)
        (← field "found" uint64?))
  | "unique" => some (.uniqueViolation message)
  | "config" => some (.config message)
  | "timeout" => some .timeout
  | "dispatch" => some (.dispatch message)
  | "io" => some (.exchange (.system message))
  | _ => none

def read? (j : Json) : Option RiskError := do
  let kind ← (j.member? "kind").bind text?
  let message ← textOf? j "message"
  if kind = "enumeration" then
    match h : j.member? "source" with
    | some source =>
        have := Json.sizeOf_member?_lt h
        some (.enumerating (← textOf? j "target") (← read? source))
    | none => none
  else ofKind? kind message j
termination_by sizeOf j

/-- Kind, code and message; faults of other programs have no message of their own. -/
def toJson (e : RiskError) : Json :=
  .object ([("error", .string e.kind), ("code", .string e.code)]
    ++ match e with
      | exchange _ => []
      | _ => [("message", .string e.message)])

end RiskError

def Operation.read? (j : Json) : Option Operation := (text? j).bind Operation.ofText?

/-- A failure, from the error that it comes from. -/
def Failure.read? (j : Json) : Option Failure := do
  let entity ← (j.member? "entity").bind EntityRef.read?
  let operation ← (j.member? "operation").bind Operation.read?
  let error ← (j.member? "error").bind RiskError.read?
  some (.ofError entity operation error)

end SupplyRisk
