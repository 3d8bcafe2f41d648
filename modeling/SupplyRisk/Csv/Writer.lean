/-!
# Writing comma-separated rows

A field is quoted when it holds a comma, a quote or a line end; quotes inside are doubled.  Every row ends
with a line feed.
-/

namespace SupplyRisk.Csv

/-- Characters that make quotes necessary. -/
def needsQuotes (c : Char) : Bool := c = ',' || c = '"' || c = '\n' || c = '\r'

/-- A quote is written twice. -/
def doubled : List Char → List Char
  | [] => []
  | c :: cs => if c = '"' then '"' :: '"' :: doubled cs else c :: doubled cs

def fieldText (field : List Char) : List Char :=
  if field.any needsQuotes then '"' :: doubled field ++ ['"'] else field

def rowText (fields : List (List Char)) : List Char :=
  List.intercalate [','] (fields.map fieldText) ++ ['\n']

def text (rows : List (List (List Char))) : List Char := rows.flatMap rowText

end SupplyRisk.Csv
