import SupplyRisk.Csv.Writer
import SupplyRisk.Decimal.Fixed
import SupplyRisk.Json.Writer
import SupplyRisk.Store.Script
import SupplyRisk.Text.Table

/-!
# Exports

One flat record per assessed supplier and part, written as JSON, as comma-separated rows or as a table.
-/

namespace SupplyRisk

structure ExportRecord where
  kind : EntityKind
  id : UInt64
  code : String
  /-- The alert threshold of a supplier, the low-stock threshold of a part. -/
  threshold : Option UInt32
  /-- The overall score of a supplier, the combined score of a part. -/
  score : Float
  level : Level

inductive ExportFormat where
  | table
  | json
  | csv
deriving DecidableEq

namespace ExportFormat

def text : ExportFormat → String
  | table => "table"
  | json => "json"
  | csv => "csv"

def ofText? : String → Option ExportFormat
  | "table" => some table
  | "json" => some json
  | "csv" => some csv
  | _ => none

end ExportFormat

namespace ExportRecord

def ofSupplier (suppliers : List Supplier) (r : SupplierRisk) : ExportRecord where
  kind := .supplier
  id := r.supplier.value
  code := ((suppliers.find? (fun s => s.id = r.supplier)).map (·.code)).getD ""
  threshold := some r.alertThreshold.toUInt32
  score := r.overall
  level := r.level

def ofPart (parts : List Part) (r : PartRisk) : ExportRecord :=
  let part := parts.find? (fun p => p.id = r.part)
  { kind := .part
    id := r.part.value
    code := (part.map (·.code)).getD ""
    threshold := part.bind (·.lowStockThreshold)
    score := Float.ofNat r.combined.toNat
    level := r.level }

/-- Every assessed supplier and part, suppliers first and each by number. -/
def collect : Script (List ExportRecord) := do
  let suppliers ← Script.ask .suppliers
  let parts ← Script.ask .parts
  let supplierRisks ← Script.ask .supplierRisks
  let partRisks ← Script.ask .partRisks
  return (supplierRisks.filter (·.lastAssessment.isSome)).map (ofSupplier suppliers)
    ++ (partRisks.filter (·.lastAssessment.isSome)).map (ofPart parts)

def fieldNames : List String := ["kind", "id", "code", "threshold", "score", "level"]

def toJson (real : Float → Json) (r : ExportRecord) : Json :=
  .object [("kind", .string r.kind.text), ("id", idJson r.id), ("code", .string r.code),
    ("threshold", .ofOption (fun n => .nat n.toNat) r.threshold), ("score", real r.score),
    ("level", r.level.toJson)]

/-- A record, with a reader of its score. -/
def readWith? (number? : Json → Option Float) (j : Json) : Option ExportRecord := do
  let f ← Document.record? fieldNames j
  some {
    kind := ← f.required "kind" (Document.choiceOf? EntityKind.ofText?)
    id := ← f.required "id" Document.uint64?
    code := ← f.required "code" Document.text?
    threshold := ← f.optional "threshold" Document.uint32?
    score := ← f.required "score" number?
    level := ← f.required "level" Level.read? }

/-- The fields of a row; a missing threshold is empty. -/
def csvFields (r : ExportRecord) : List (List Char) :=
  [r.kind.text.toList, Decimal.natText r.id.toNat, r.code.toList,
    (r.threshold.map (fun n => Decimal.natText n.toNat)).getD [],
    (Decimal.Layout.exported.text r.score).toList, r.level.text.toList]

def csvText (records : List ExportRecord) : String :=
  if records.isEmpty then ""
  else String.ofList (Csv.text (fieldNames.map String.toList :: records.map csvFields))

def jsonText (records : List ExportRecord) : String :=
  (Json.ofList (toJson Json.real) records).pretty ++ "\n"

def tableCells (r : ExportRecord) : List String :=
  [r.kind.text, natString r.id.toNat, r.code,
    (r.threshold.map (fun n => natString n.toNat)).getD "-", Decimal.fixedText 2 r.score,
    r.level.label]

def tableText (records : List ExportRecord) : String :=
  Text.table ["Kind", "Id", "Code", "Threshold", "Score", "Level"] (records.map tableCells) ++ "\n"

/-- The export in a format. -/
def render : ExportFormat → List ExportRecord → String
  | .table => tableText
  | .json => jsonText
  | .csv => csvText

end ExportRecord

/-- Alerts as a table, the most severe first. -/
def alertsTable (alerts : List Alert) : String :=
  Text.table ["Id", "Entity", "Level", "Category", "Since", "Message"]
    ((alerts.mergeSort Alert.severityLe).map (fun a =>
      [a.id.text, a.entity.text, a.level.label, a.category.text, a.lastActivity.minuteText,
        a.message]))

end SupplyRisk
