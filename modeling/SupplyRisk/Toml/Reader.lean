import SupplyRisk.Toml.Scalar
import SupplyRisk.Toml.Table
import SupplyRisk.Toml.Text

/-!
# Reading TOML

A text is a sequence of lines, each a key with its value, a header, a comment or nothing.  Values in brackets
and braces may run over several lines and end with a comma, and are nested at most eighty deep.
-/

namespace SupplyRisk.Toml

/-- How deep values may be nested. -/
def nestingLimit : Nat := 80

mutual

/-- A value at the front of a text, in which `depth` values may still be nested. -/
def value? : Nat → Nat → List Char → Option (Toml × List Char)
  | 0, _, _ => none
  | fuel + 1, depth, cs =>
      match cs with
      | '"' :: _ => (string? cs).map (fun found => (string found.1, found.2))
      | '\'' :: _ => (string? cs).map (fun found => (string found.1, found.2))
      | '[' :: rest => if depth = 0 then none else items? fuel (depth - 1) [] rest
      | '\x7b' :: rest =>
          if depth = 0 then none else pairs? fuel (depth - 1) Build.root rest
      | _ =>
          let (word, rest) := takeWord cs
          (word? word).map (·, rest)

/-- The items of an array behind its bracket or a comma, after the given ones, the last one first. -/
def items? : Nat → Nat → List Toml → List Char → Option (Toml × List Char)
  | 0, _, _, _ => none
  | fuel + 1, depth, items, cs => do
      match ← skipLines? false cs with
      | ']' :: rest => some (array items.reverse, rest)
      | cs => do
          let (item, rest) ← value? fuel depth cs
          match ← skipLines? false rest with
          | ',' :: rest => items? fuel depth (item :: items) rest
          | ']' :: rest => some (array (item :: items).reverse, rest)
          | _ => none

/-- The members of a table in braces behind its brace or a comma, added to the given ones. -/
def pairs? : Nat → Nat → Build → List Char → Option (Toml × List Char)
  | 0, _, _, _ => none
  | fuel + 1, depth, b, cs => do
      match ← skipLines? false cs with
      | '\x7d' :: rest => some (b.node.toToml, rest)
      | cs => do
          let (b, rest) ← pair? fuel depth b cs
          match ← skipLines? false rest with
          | ',' :: rest => pairs? fuel depth b rest
          | '\x7d' :: rest => some (b.node.toToml, rest)
          | _ => none

/-- A key with its value, added to a table. -/
def pair? : Nat → Nat → Build → List Char → Option (Build × List Char)
  | 0, _, _, _ => none
  | fuel + 1, depth, b, cs => do
      let (path, key, rest) ← key? cs.length cs
      let rest ← mark? '=' rest
      let (v, rest) ← value? fuel depth (skipSpace rest)
      some (← b.assign path key v, rest)

end

/-- What one line of a text says. -/
inductive Line where
  | pair (path : List String) (key : String) (v : Toml)
  | table (path : List String) (key : String)
  | element (path : List String) (key : String)

/-- The end of a line or of the text, after white space and a comment. -/
def afterLine? (cs : List Char) : Option (List Char) := do
  let cs ← match skipSpace cs with
    | '#' :: rest => comment? rest
    | rest => some rest
  match cs with
  | [] => some []
  | cs => lineEnd? cs

/-- Enough steps for any value in a text. -/
def stepsFor (cs : List Char) : Nat := 2 * cs.length + 2

/-- A header or a pair. -/
def line? (cs : List Char) : Option (Line × List Char) :=
  match cs with
  | '[' :: '[' :: rest => do
      let (path, key, rest) ← key? rest.length rest
      let rest ← (mark? ']' rest).bind (mark? ']')
      some (.element path key, rest)
  | '[' :: rest => do
      let (path, key, rest) ← key? rest.length rest
      some (.table path key, ← mark? ']' rest)
  | cs => do
      let (path, key, rest) ← key? cs.length cs
      let rest ← mark? '=' rest
      let (v, rest) ← value? (stepsFor rest) nestingLimit (skipSpace rest)
      some (.pair path key v, rest)

/-- The lines of a text. -/
def allLines? : Nat → List Char → Option (List Line)
  | 0, _ => none
  | fuel + 1, cs => do
      match ← skipLines? false cs with
      | [] => some []
      | cs => do
          let (line, rest) ← line? cs
          let rest ← afterLine? rest
          some (line :: (← allLines? fuel rest))

/-- The root after lines were added; pairs go to the table at the path of the last header. -/
def addLines? : Build → List String → List Line → Option Build
  | root, _, [] => some root
  | root, current, .pair path key v :: lines => do
      addLines? (← root.alter .implied (·.assign path key v) current) current lines
  | root, _, .table path key :: lines => do
      addLines? (← root.openTable path key) (path ++ [key]) lines
  | root, _, .element path key :: lines => do
      addLines? (← root.openElement path key) (path ++ [key]) lines

/-- Drops a byte order mark. -/
def withoutMark : List Char → List Char
  | [] => []
  | c :: cs => if c.toNat = 0xFEFF then cs else c :: cs

/-- The table that a whole text writes. -/
def read? (text : String) : Option Toml := do
  let cs := withoutMark text.toList
  let lines ← allLines? (cs.length + 1) cs
  let root ← addLines? Build.root [] lines
  some root.node.toToml

end SupplyRisk.Toml
