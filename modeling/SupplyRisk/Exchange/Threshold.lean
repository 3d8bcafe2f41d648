import SupplyRisk.Csv.Reader
import SupplyRisk.Engine.Assess
import SupplyRisk.Failure
import SupplyRisk.Files.Path
import SupplyRisk.Json.Reader

/-!
# Importing thresholds

Each row sets the alert threshold of a supplier or the low-stock threshold of a part, where an absent value
clears it.  One unreadable row refuses the whole text; a row that the store refuses is reported and the
others still apply.
-/

namespace SupplyRisk

structure ThresholdRecord where
  kind : EntityKind
  id : UInt64
  threshold : Option Int
deriving DecidableEq

inductive ThresholdFormat where
  | json
  | csv
deriving DecidableEq

namespace ThresholdFormat

def text : ThresholdFormat → String
  | json => "json"
  | csv => "csv"

def ofText? : String → Option ThresholdFormat
  | "json" => some json
  | "csv" => some csv
  | _ => none

/-- What malformed text of a format is called. -/
def fault : ThresholdFormat → ExchangeFault
  | json => .json
  | csv => .csv

/-- Files whose extension is `csv`, in any case, hold rows; all others hold JSON. -/
def ofPath (path : FilePath) : ThresholdFormat :=
  match path.extension? with
  | some extension => if extension.map Text.lowerAscii = ['c', 's', 'v'] then csv else json
  | none => json

end ThresholdFormat

namespace ThresholdRecord

def entity (r : ThresholdRecord) : EntityRef := .ofKind r.kind r.id

def read? (j : Json) : Option ThresholdRecord := do
  let f ← Document.record? ["kind", "id", "threshold"] j
  some {
    kind := ← f.required "kind" (Document.choiceOf? EntityKind.ofText?)
    id := ← f.required "id" Document.uint64?
    threshold := ← f.optional "threshold" Document.int64? }

/-- A number in digits of a base. -/
def digitsIn? (base : Nat) (cs : List Char) : Option Nat :=
  if cs.isEmpty then none
  else cs.foldlM (fun n c => (Text.digitValue? base c).map (n * base + ·)) 0

/-- A number with an optional sign. -/
def signed? (base : Nat) : List Char → Option Int
  | '+' :: cs => (digitsIn? base cs).map (fun n => (n : Int))
  | '-' :: cs => (digitsIn? base cs).map (fun n => -(n : Int))
  | cs => (digitsIn? base cs).map (fun n => (n : Int))

/-- A whole number in a field, in decimal or, behind `0x`, in hexadecimal. -/
def fieldInt? : List Char → Option Int
  | '0' :: 'x' :: cs => signed? 16 cs
  | cs => signed? 10 cs

/-- Whether a number starts with a minus sign, which identities may not have. -/
def isSigned : List Char → Bool
  | '-' :: _ => true
  | '0' :: 'x' :: '-' :: _ => true
  | _ => false

def fieldId? (cs : List Char) : Option UInt64 :=
  if isSigned cs then none
  else (fieldInt? cs).bind (fun n => if n < Word.count64 then some (UInt64.ofNat n.toNat) else none)

/-- A threshold; an empty field has none. -/
def fieldThreshold? (cs : List Char) : Option (Option Int) :=
  if cs.isEmpty then some none
  else (fieldInt? cs).bind (fun n => if Word.holdsSigned Word.count64 n then some (some n) else none)

/-- The field of a named column; nothing if the name stands twice. -/
def column? (names fields : List (List Char)) (name : String) : Option (Option (List Char)) :=
  match (names.zip fields).filter (fun c => c.1 = name.toList) with
  | [] => some none
  | [c] => some (some c.2)
  | _ => none

/-- The record in a row under the given column names. -/
def ofRow? (names fields : List (List Char)) : Option ThresholdRecord := do
  if fields.length ≠ names.length then none
  else
    let kind ← (← column? names fields "kind")
    let id ← (← column? names fields "id")
    let threshold ← column? names fields "threshold"
    some {
      kind := ← EntityKind.ofText? (String.ofList kind)
      id := ← fieldId? id
      threshold := ← fieldThreshold? (threshold.getD []) }

/-- The records of a text with a row of column names. -/
def parseCsv? (text : String) : Option (List ThresholdRecord) :=
  match (Csv.read text.toList).map (fun row => row.map Text.trim) with
  | [] => some []
  | names :: rows => rows.mapM (ofRow? names)

/-- The records that a text writes in a format. -/
def parse (format : ThresholdFormat) (text : String) : Except ExchangeFault (List ThresholdRecord) :=
  match format with
  | .json =>
      match (Json.read? text).bind (Document.list? read?) with
      | some records => .ok records
      | none => .error .json
  | .csv =>
      match parseCsv? text with
      | some records => .ok records
      | none => .error .csv

/-- The value of a low-stock threshold. -/
def stockThreshold (value : Int) : Except RiskError UInt32 :=
  if 0 ≤ value ∧ value < Word.count32 then .ok (UInt32.ofNat value.toNat)
  else .error (.outOfRange "low_stock_threshold" value 0 (Word.count32 - 1))

/-- Applies one row. -/
def apply (r : ThresholdRecord) : Script Unit :=
  match r.entity with
  | .supplier id =>
      match r.threshold with
      | none => Script.fail (.validation "alert_threshold" "a supplier threshold is required")
      | some value => do
          let _ ← setAlertThreshold id value
          return ()
  | .part id =>
      match r.threshold with
      | none => Script.ask (.setPartStockThreshold id none)
      | some value => do
          let threshold ← Script.ofExcept (stockThreshold value)
          Script.ask (.setPartStockThreshold id (some threshold))

end ThresholdRecord

structure ImportReport where
  applied : Nat := 0
  failures : List Failure := []
deriving DecidableEq

namespace ImportReport

/-- The report after one more row. -/
def add (r : ImportReport) (row : ThresholdRecord) : Except RiskError Unit → ImportReport
  | .ok () => { r with applied := r.applied + 1 }
  | .error e => { r with failures := r.failures ++ [.ofError row.entity .thresholdImport e] }

def toJson (r : ImportReport) : Json :=
  .object [("applied", .nat r.applied), ("failures", .ofList Failure.toJson r.failures)]

end ImportReport

/-- Applies rows one after the other, starting from a report. -/
def applyThresholds : ImportReport → List ThresholdRecord → Script ImportReport
  | report, [] => return report
  | report, row :: rows => do
      let result ← (Except.ok <$> row.apply).recover (fun e => return .error e)
      applyThresholds (report.add row result) rows

end SupplyRisk
