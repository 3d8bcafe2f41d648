import SupplyRisk.Json.Value
import SupplyRisk.Text.Hexadecimal

/-!
# Writing JSON

`compact` writes a tree on one line, `pretty` with two blanks per level of nesting; empty arrays and
objects stay on one line.  In strings only the quote, the backslash and control characters are escaped.
-/

namespace SupplyRisk.Json

open Text (hexDigit)

/-- A character inside a string. -/
def escaped (c : Char) : List Char :=
  if c = '"' then ['\\', '"']
  else if c = '\\' then ['\\', '\\']
  else if c = '\n' then ['\\', 'n']
  else if c = '\r' then ['\\', 'r']
  else if c = '\t' then ['\\', 't']
  else if c.toNat = 8 then ['\\', 'b']
  else if c.toNat = 12 then ['\\', 'f']
  else if c.toNat < 32 then ['\\', 'u', '0', '0', hexDigit (c.toNat / 16), hexDigit (c.toNat % 16)]
  else [c]

def quoted (s : String) : List Char := '"' :: s.toList.flatMap escaped ++ ['"']

/-- How nested values are set apart. -/
structure Spacing where
  /-- Blanks per level, on lines of their own; none means that all stands on one line. -/
  indent : Option Nat
  /-- Between a key and its value. -/
  colon : List Char

namespace Spacing

def compact : Spacing := ⟨none, [':']⟩

def pretty : Spacing := ⟨some 2, [':', ' ']⟩

/-- The start of a line at a level of nesting. -/
def newline (s : Spacing) (level : Nat) : List Char :=
  match s.indent with
  | none => []
  | some width => '\n' :: List.replicate (width * level) ' '

end Spacing

def wordText : Bool → List Char
  | true => ['t', 'r', 'u', 'e']
  | false => ['f', 'a', 'l', 's', 'e']

def nullText : List Char := ['n', 'u', 'l', 'l']

mutual

/-- The text of a tree at a level of nesting; what cannot be read is written as null. -/
def chars (s : Spacing) (level : Nat) : Json → List Char
  | .null => nullText
  | .unreadable => nullText
  | .bool b => wordText b
  | .number n => n.text true
  | .string t => quoted t
  | .array [] => ['[', ']']
  | .array (item :: items) =>
      '[' :: s.newline (level + 1) ++ chars s (level + 1) item ++ itemsChars s (level + 1) items
        ++ s.newline level ++ [']']
  | .object [] => ['\x7b', '\x7d']
  | .object (m :: ms) =>
      '\x7b' :: s.newline (level + 1) ++ memberChars s (level + 1) m ++ membersChars s (level + 1) ms
        ++ s.newline level ++ ['\x7d']

/-- The items after the first one. -/
def itemsChars (s : Spacing) (level : Nat) : List Json → List Char
  | [] => []
  | item :: items => ',' :: s.newline level ++ chars s level item ++ itemsChars s level items

def memberChars (s : Spacing) (level : Nat) : String × Json → List Char
  | (key, value) => quoted key ++ s.colon ++ chars s level value

/-- The members after the first one. -/
def membersChars (s : Spacing) (level : Nat) : List (String × Json) → List Char
  | [] => []
  | m :: ms => ',' :: s.newline level ++ memberChars s level m ++ membersChars s level ms

end

def compact (j : Json) : String := String.ofList (chars .compact 0 j)

def pretty (j : Json) : String := String.ofList (chars .pretty 0 j)

end SupplyRisk.Json
