/-!
# Reading comma-separated rows

Rows end at a line feed, a carriage return or both; empty lines are skipped.  A field that starts with a quote
runs to the closing quote, and two quotes in it stand for one; what follows the closing quote belongs to the
field as it stands.  A quoted field that is not closed ends with the text.
-/

namespace SupplyRisk.Csv

/-- Where in a row the reader is. -/
inductive Place where
  /-- Between rows. -/
  | row
  /-- At the start of a field. -/
  | field
  /-- In a field without quotes, or behind the closing quote. -/
  | plain
  | quoted
  /-- Behind a quote inside a quoted field. -/
  | quote
deriving DecidableEq

/-- What has been read: complete rows and fields, and the current field, each the last one first. -/
structure Progress where
  rows : List (List (List Char))
  fields : List (List Char)
  current : List Char

namespace Progress

def push (p : Progress) (c : Char) : Progress := { p with current := c :: p.current }

def endField (p : Progress) : Progress :=
  { p with fields := p.current.reverse :: p.fields, current := [] }

def endRow (p : Progress) : Progress :=
  let fields := (p.current.reverse :: p.fields).reverse
  ⟨fields :: p.rows, [], []⟩

/-- All rows, in order. -/
def finish (p : Progress) : List (List (List Char)) := p.rows.reverse

end Progress

def isLineEnd (c : Char) : Bool := c = '\n' || c = '\r'

/-- Takes a character in a field without quotes. -/
def stepPlain (p : Progress) (c : Char) : Place × Progress :=
  if c = ',' then (.field, p.endField)
  else if isLineEnd c then (.row, p.endRow)
  else (.plain, p.push c)

/-- Takes a character at the start of a field. -/
def stepField (p : Progress) (c : Char) : Place × Progress :=
  if c = '"' then (.quoted, p) else stepPlain p c

def step (place : Place) (p : Progress) (c : Char) : Place × Progress :=
  match place with
  | .row => if isLineEnd c then (.row, p) else stepField p c
  | .field => stepField p c
  | .plain => stepPlain p c
  | .quoted => if c = '"' then (.quote, p) else (.quoted, p.push c)
  | .quote => if c = '"' then (.quoted, p.push c) else stepPlain p c

def run : Place → Progress → List Char → List (List (List Char))
  | .row, p, [] => p.finish
  | _, p, [] => p.endRow.finish
  | place, p, c :: cs =>
      let next := step place p c
      run next.1 next.2 cs

/-- Drops a byte order mark. -/
def withoutMark : List Char → List Char
  | [] => []
  | c :: cs => if c.toNat = 0xFEFF then cs else c :: cs

/-- The rows of a text, as fields. -/
def read (text : List Char) : List (List (List Char)) := run .row ⟨[], [], []⟩ (withoutMark text)

end SupplyRisk.Csv
