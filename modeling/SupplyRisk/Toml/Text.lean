import SupplyRisk.Text.Hexadecimal

/-!
# Lines, comments and strings of TOML

Lines end with a line feed, which a carriage return may precede.  Strings and comments hold no control
characters but the tab.  A string is read in two steps: first its raw text is found, then `unescape?`
resolves the escapes.
-/

namespace SupplyRisk.Toml

open Text (hexValue? isCharacterCode)

/-- A blank or a tab. -/
def isSpace (c : Char) : Bool := c = ' ' || c = '\t'

def skipSpace : List Char → List Char
  | [] => []
  | c :: cs => if isSpace c then skipSpace cs else c :: cs

/-- What may stand in strings and comments: no control character but the tab. -/
def isPlain (c : Char) : Bool := c = '\t' || (32 ≤ c.toNat && c.toNat ≠ 127)

/-- Drops a line end. -/
def lineEnd? : List Char → Option (List Char)
  | '\n' :: cs => some cs
  | '\r' :: '\n' :: cs => some cs
  | _ => none

/-- Drops a comment behind its mark, up to the line end. -/
def comment? : List Char → Option (List Char)
  | [] => some []
  | '\n' :: cs => some ('\n' :: cs)
  | '\r' :: '\n' :: cs => some ('\r' :: '\n' :: cs)
  | c :: cs => if isPlain c then comment? cs else none

/-- Drops white space, line ends and comments; `inside` tells that a comment has begun. -/
def skipLines? (inside : Bool) : List Char → Option (List Char)
  | [] => some []
  | '\n' :: cs => skipLines? false cs
  | '\r' :: '\n' :: cs => skipLines? false cs
  | c :: cs =>
      if inside then (if isPlain c then skipLines? true cs else none)
      else if isSpace c then skipLines? false cs
      else if c = '#' then skipLines? true cs
      else some (c :: cs)

/-! ## Raw strings -/

/-- The raw text of a string in single quotes. -/
def literal? : List Char → Option (List Char × List Char)
  | [] => none
  | '\'' :: rest => some ([], rest)
  | c :: rest =>
      if isPlain c then (literal? rest).map (fun found => (c :: found.1, found.2)) else none

/-- The raw text of a string in double quotes. -/
def basic? : List Char → Option (List Char × List Char)
  | [] => none
  | '"' :: rest => some ([], rest)
  | '\\' :: c :: rest =>
      if isPlain c then (basic? rest).map (fun found => ('\\' :: c :: found.1, found.2)) else none
  | c :: rest =>
      if isPlain c then (basic? rest).map (fun found => (c :: found.1, found.2)) else none

/-- The raw text of a string over several lines, up to three quotes; one or two quotes more at the end belong
to it.  Line ends become line feeds. -/
def lines? (quote : Char) (escapes : Bool) : List Char → Option (List Char × List Char)
  | [] => none
  | '\n' :: rest => (lines? quote escapes rest).map (fun found => ('\n' :: found.1, found.2))
  | '\r' :: '\n' :: rest =>
      (lines? quote escapes rest).map (fun found => ('\n' :: found.1, found.2))
  | '\\' :: c :: rest =>
      if escapes ∧ (c = '\\' ∨ c = quote) then
        (lines? quote escapes rest).map (fun found => ('\\' :: c :: found.1, found.2))
      else (lines? quote escapes (c :: rest)).map (fun found => ('\\' :: found.1, found.2))
  | c :: rest =>
      if c = quote then
        match closing? quote rest with
        | some found => some found
        | none => (lines? quote escapes rest).map (fun found => (c :: found.1, found.2))
      else if isPlain c then
        (lines? quote escapes rest).map (fun found => (c :: found.1, found.2))
      else none
where
  /-- The end of the text behind a first quote: two more quotes close it, and of up to four the first ones
  belong to the text. -/
  closing? (quote : Char) (rest : List Char) : Option (List Char × List Char) :=
    let more := ((rest.take 4).takeWhile (· = quote)).length
    if more < 2 then none else some (List.replicate (more - 2) quote, rest.drop more)

/-! ## Escapes -/

/-- Where in a raw text the reader is. -/
inductive Place where
  | text
  /-- Behind a backslash. -/
  | escape
  /-- In a code with so many digits to come. -/
  | code (digits value : Nat)
  /-- In the white space behind a backslash, before or past the line end. -/
  | lineEnd (passed : Bool)
deriving DecidableEq

/-- The character of a letter behind a backslash. -/
def shortEscape? : Char → Option Char
  | '"' => some '"'
  | '\\' => some '\\'
  | 'b' => some (Char.ofNat 8)
  | 'e' => some (Char.ofNat 27)
  | 'f' => some (Char.ofNat 12)
  | 'n' => some '\n'
  | 'r' => some '\r'
  | 't' => some '\t'
  | _ => none

/-- The number of digits of a code, by its letter. -/
def codeLength? : Char → Option Nat
  | 'x' => some 2
  | 'u' => some 4
  | 'U' => some 8
  | _ => none

def stepText (c : Char) : Place × List Char := if c = '\\' then (.escape, []) else (.text, [c])

/-- The place after a character behind a backslash, and what it yields. -/
def stepEscape (c : Char) : Option (Place × List Char) :=
  match shortEscape? c, codeLength? c with
  | some e, _ => some (.text, [e])
  | none, some digits => some (.code digits 0, [])
  | none, none =>
      if isSpace c then some (.lineEnd false, [])
      else if c = '\n' then some (.lineEnd true, [])
      else none

/-- The place after a digit of a code, and what it yields. -/
def stepCode (digits value : Nat) (c : Char) : Option (Place × List Char) := do
  let value := value * 16 + (← hexValue? c)
  if 1 < digits then some (.code (digits - 1) value, [])
  else if isCharacterCode value then some (.text, [Char.ofNat value])
  else none

def step (place : Place) (c : Char) : Option (Place × List Char) :=
  match place with
  | .text => some (stepText c)
  | .escape => stepEscape c
  | .code digits value => stepCode digits value c
  | .lineEnd passed =>
      if isSpace c then some (.lineEnd passed, [])
      else if c = '\n' then some (.lineEnd true, [])
      else if passed then some (stepText c)
      else none

/-- The text behind a raw text, continued at a place. -/
def unescapeAt? : Place → List Char → Option (List Char)
  | .text, [] => some []
  | .lineEnd true, [] => some []
  | _, [] => none
  | place, c :: cs => do
      let (next, yielded) ← step place c
      some (yielded ++ (← unescapeAt? next cs))

def unescape? (raw : List Char) : Option (List Char) := unescapeAt? .text raw

/-- Drops the line end right behind the opening quotes. -/
def withoutFirstLineEnd (cs : List Char) : List Char := (lineEnd? cs).getD cs

/-- A string of one line. -/
def lineString? : List Char → Option (String × List Char)
  | '"' :: cs => do
      let (raw, rest) ← basic? cs
      some (String.ofList (← unescape? raw), rest)
  | '\'' :: cs => (literal? cs).map (fun found => (String.ofList found.1, found.2))
  | _ => none

/-- A string. -/
def string? : List Char → Option (String × List Char)
  | '"' :: '"' :: '"' :: cs => do
      let (raw, rest) ← lines? '"' true (withoutFirstLineEnd cs)
      some (String.ofList (← unescape? raw), rest)
  | '\'' :: '\'' :: '\'' :: cs =>
      (lines? '\'' false (withoutFirstLineEnd cs)).map (fun found =>
        (String.ofList found.1, found.2))
  | cs => lineString? cs

/-! ## Keys -/

def isKeyChar (c : Char) : Bool := c.isAlphanum || c = '_' || c = '-'

/-- One part of a key. -/
def keyPart? (cs : List Char) : Option (String × List Char) :=
  match cs with
  | '"' :: _ => lineString? cs
  | '\'' :: _ => lineString? cs
  | _ =>
      let name := cs.takeWhile isKeyChar
      if name.isEmpty then none else some (String.ofList name, cs.dropWhile isKeyChar)

/-- The parts of a key, with points between them, and the white space behind it. -/
def key? : Nat → List Char → Option (List String × String × List Char)
  | 0, _ => none
  | fuel + 1, cs => do
      let (part, rest) ← keyPart? (skipSpace cs)
      match skipSpace rest with
      | '.' :: rest => do
          let (path, last, rest) ← key? fuel rest
          some (part :: path, last, rest)
      | rest => some ([], part, rest)

end SupplyRisk.Toml
