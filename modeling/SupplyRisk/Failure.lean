import SupplyRisk.Error

/-!
# Failures of single entities

A batch goes on when one entity fails; the failure is kept with its entity and operation.  A
`FailureSummary` groups failures by operation and by kind of error, both in ascending order, and keeps the
first ten as samples.
-/

namespace SupplyRisk

/-- What was attempted for an entity. -/
inductive Operation where
  | supplierAssessment
  | partAssessment
  | recommendation
  | alertDispatch
  | thresholdImport
deriving DecidableEq

namespace Operation

def rank : Operation → Nat
  | supplierAssessment => 0
  | partAssessment => 1
  | recommendation => 2
  | alertDispatch => 3
  | thresholdImport => 4

instance : LT Operation := ⟨fun a b => a.rank < b.rank⟩
instance (a b : Operation) : Decidable (a < b) := inferInstanceAs (Decidable (a.rank < b.rank))

def label : Operation → String
  | supplierAssessment => "Supplier assessment"
  | partAssessment => "Part assessment"
  | recommendation => "Recommendation"
  | alertDispatch => "Alert dispatch"
  | thresholdImport => "Import"

def text : Operation → String
  | supplierAssessment => "supplier_assessment"
  | partAssessment => "part_assessment"
  | recommendation => "recommendation"
  | alertDispatch => "alert_dispatch"
  | thresholdImport => "import"

def ofText? : String → Option Operation
  | "supplier_assessment" => some supplierAssessment
  | "part_assessment" => some partAssessment
  | "recommendation" => some recommendation
  | "alert_dispatch" => some alertDispatch
  | "import" => some thresholdImport
  | _ => none

end Operation

structure Failure where
  entity : EntityRef
  operation : Operation
  kind : String
  error : String
deriving DecidableEq

namespace Failure

def ofError (entity : EntityRef) (operation : Operation) (error : RiskError) : Failure :=
  ⟨entity, operation, error.kind, error.message⟩

def toJson (f : Failure) : Json :=
  .object [("entity", f.entity.toJson), ("operation", .string f.operation.text),
    ("kind", .string f.kind), ("error", .string f.error)]

/-- Order by entity, then operation. -/
def le (a b : Failure) : Bool :=
  a.entity.rank < b.entity.rank
    || (a.entity.rank = b.entity.rank && a.operation.rank ≤ b.operation.rank)

end Failure

structure FailureSummary where
  total : Nat
  byOperation : List (Operation × Nat)
  byKind : List (String × List EntityRef)
  samples : List Failure

namespace FailureSummary

/-- How many failures are kept as samples. -/
def sampleLimit : Nat := 10

section Groups

variable {κ β : Type} [DecidableEq κ] [LT κ] [DecidableLT κ]

/-- Adds to the group of a key, which starts afresh if there is none; groups stay in ascending order of their
keys. -/
def addToGroup (fresh : β) (add : β → β) (key : κ) : List (κ × β) → List (κ × β)
  | [] => [(key, add fresh)]
  | (k, group) :: groups =>
      if key = k then (k, add group) :: groups
      else if key < k then (key, add fresh) :: (k, group) :: groups
      else (k, group) :: addToGroup fresh add key groups

/-- The groups of failures with a common key. -/
def groupsBy (key : Failure → κ) (fresh : β) (add : β → Failure → β) (failures : List Failure) :
    List (κ × β) :=
  failures.foldl (fun groups f => addToGroup fresh (fun group => add group f) (key f) groups) []

end Groups

def ofFailures (failures : List Failure) : FailureSummary where
  total := failures.length
  byOperation := groupsBy (fun f => f.operation) 0 (fun count _ => count + 1) failures
  byKind := groupsBy (fun f => f.kind) [] (fun entities f => entities ++ [f.entity]) failures
  samples := failures.take sampleLimit

/-- One line of a group. -/
def groupLine (name : String) (count : Nat) : String :=
  "  " ++ name ++ ": " ++ natString count ++ " entity(ies)\n"

def sampleLine (f : Failure) : String := "  " ++ f.entity.text ++ ": " ++ f.error ++ "\n"

/-- The samples under their heading; nothing if there are none. -/
def samplesText (samples : List Failure) : String :=
  if samples.isEmpty then "" else "\nSample errors:\n" ++ String.join (samples.map sampleLine)

/-- How many failures are not among the samples; nothing if all are. -/
def moreText (s : FailureSummary) : String :=
  if s.samples.length < s.total then
    "  ... and " ++ natString (s.total - s.samples.length) ++ " more\n"
  else ""

def report (s : FailureSummary) : String :=
  "\nFailure breakdown:\n"
    ++ String.join (s.byOperation.map (fun group => groupLine group.1.label group.2))
    ++ "\nError categories:\n"
    ++ String.join (s.byKind.map (fun group => groupLine group.1 group.2.length))
    ++ samplesText s.samples ++ s.moreText

/-- The counts with the report. -/
def toJson (s : FailureSummary) : Json :=
  .object [("total", .nat s.total),
    ("by_operation", .ofList (fun g : Operation × Nat => .array [.string g.1.label, .nat g.2])
      s.byOperation),
    ("by_error_kind", .object (s.byKind.map (fun g => (g.1, .ofList EntityRef.toJson g.2)))),
    ("sample_errors", .ofList Failure.toJson s.samples), ("report", .string s.report)]

end FailureSummary

end SupplyRisk
