import SupplyRisk.Text.Width

/-!
# Tables in plain characters

A frame of `+`, `-` and `|`, a line of `=` under the heading and dashed lines between rows.  Columns are as
wide as their widest cell.  A line end in a cell starts another line of the same row.
-/

namespace SupplyRisk.Text

/-- The lines of a cell. -/
def cellLines : List Char → List (List Char)
  | [] => [[]]
  | '\n' :: cs => [] :: cellLines cs
  | c :: cs =>
      match cellLines cs with
      | line :: lines => (c :: line) :: lines
      | [] => [[c]]

/-- A row of cells, each given by its lines. -/
abbrev TableRow := List (List (List Char))

def rowOf (cells : List String) : TableRow := cells.map (fun c => cellLines c.toList)

def cellWidth (lines : List (List Char)) : Nat := (lines.map width).foldl max 0

/-- The widths of the columns. -/
def columnWidths (rows : List TableRow) (columns : Nat) : List Nat :=
  (List.range columns).map (fun i => (rows.map (fun row => cellWidth (row.getD i []))).foldl max 0)

/-- A rule across the table. -/
def rule (left fill cross right : Char) (widths : List Nat) : List Char :=
  left :: (List.intercalate [cross] (widths.map (fun w => List.replicate (w + 2) fill))) ++ [right]

/-- A line of a cell with one blank on the left, filled up on the right. -/
def paddedCell (w : Nat) (line : List Char) : List Char :=
  ' ' :: line ++ List.replicate (w - width line + 1) ' '

/-- One of the lines of a row. -/
def rowLine (widths : List Nat) (row : TableRow) (i : Nat) : List Char :=
  let cells := (widths.zip row).map (fun (w, lines) => paddedCell w (lines.getD i []))
  '|' :: List.intercalate ['|'] cells ++ ['|']

def rowLines (widths : List Nat) (row : TableRow) : List (List Char) :=
  let height := (row.map List.length).foldl max 1
  (List.range height).map (rowLine widths row)

/-- The lines of rows with rules between them. -/
def bodyLines (widths : List Nat) : List TableRow → List (List Char)
  | [] => []
  | [row] => rowLines widths row
  | row :: rows => rowLines widths row ++ rule '|' '-' '+' '|' widths :: bodyLines widths rows

/-- A table with a heading, without a final line end. -/
def table (heading : List String) (rows : List (List String)) : String :=
  let top := rowOf heading
  let body := rows.map rowOf
  let widths := columnWidths (top :: body) heading.length
  let outer := rule '+' '-' '+' '+' widths
  let lines := outer :: rowLines widths top ++ rule '+' '=' '=' '+' widths :: bodyLines widths body
    ++ [outer]
  String.ofList (List.intercalate ['\n'] lines)

end SupplyRisk.Text
