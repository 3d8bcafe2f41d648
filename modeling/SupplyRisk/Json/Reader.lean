import SupplyRisk.Json.Value
import SupplyRisk.Text.Hexadecimal

/-!
# Reading JSON

`read?` accepts exactly one value surrounded by white space.  Numbers follow the strict grammar: no leading
zeros, no plus sign, digits on both sides of a point.  Numbers are kept as written, so their range is only
checked where they are used.
-/

namespace SupplyRisk.Json

open Decimal
open Text (hexValue?)

def isSpace (c : Char) : Bool := c = ' ' || c = '\n' || c = '\r' || c = '\t'

def skipSpace : List Char → List Char
  | [] => []
  | c :: cs => if isSpace c then skipSpace cs else c :: cs

/-- The digits at the front of a text, and the text after them. -/
def spanDigits : List Char → List Digit × List Char
  | [] => ([], [])
  | c :: cs =>
      match digit? c with
      | some d => (d :: (spanDigits cs).1, (spanDigits cs).2)
      | none => ([], c :: cs)

/-- The whole part of a number: zero alone, or digits that do not start with zero. -/
def whole? (cs : List Char) : Option (Nat × List Char) :=
  match spanDigits cs with
  | ([], _) => none
  | (d :: ds, rest) => if d.val = 0 ∧ ds ≠ [] then none else some (ofDigits 0 (d :: ds), rest)

def fraction? : List Char → Option (List Digit × List Char)
  | '.' :: cs =>
      match spanDigits cs with
      | ([], _) => none
      | found => some found
  | cs => some ([], cs)

/-- The digits of an exponent behind its sign. -/
def unsignedExponent? (negative : Bool) (cs : List Char) : Option (Option Int × List Char) :=
  match spanDigits cs with
  | ([], _) => none
  | (ds, rest) =>
      let value : Int := ofDigits 0 ds
      some (some (if negative then -value else value), rest)

def exponent? : List Char → Option (Option Int × List Char)
  | c :: cs =>
      if c = 'e' ∨ c = 'E' then
        match cs with
        | '+' :: rest => unsignedExponent? false rest
        | '-' :: rest => unsignedExponent? true rest
        | rest => unsignedExponent? false rest
      else some (none, c :: cs)
  | [] => some (none, [])

def unsignedNumeral? (negative : Bool) (cs : List Char) : Option (Numeral × List Char) := do
  let (whole, cs) ← whole? cs
  let (fraction, cs) ← fraction? cs
  let (exponent, cs) ← exponent? cs
  some (⟨negative, whole, fraction, exponent⟩, cs)

def numeral? : List Char → Option (Numeral × List Char)
  | '-' :: cs => unsignedNumeral? true cs
  | cs => unsignedNumeral? false cs

/-- A unit of a string: a character, or half of a pair written by two escapes. -/
inductive TextUnit where
  | char (c : Char)
  | surrogate (code : Nat)

/-- The unit that four hexadecimal digits write. -/
def TextUnit.ofCode (code : Nat) : TextUnit :=
  if 0xD800 ≤ code ∧ code < 0xE000 then .surrogate code else .char (Char.ofNat code)

def shortEscape? : Char → Option Char
  | '"' => some '"'
  | '\\' => some '\\'
  | '/' => some '/'
  | 'b' => some (Char.ofNat 8)
  | 'f' => some (Char.ofNat 12)
  | 'n' => some '\n'
  | 'r' => some '\r'
  | 't' => some '\t'
  | _ => none

/-- The units of a string up to its closing quote. -/
def units? : List Char → Option (List TextUnit × List Char)
  | [] => none
  | '"' :: rest => some ([], rest)
  | '\\' :: 'u' :: a :: b :: c :: d :: rest => do
      let code := (((← hexValue? a) * 16 + (← hexValue? b)) * 16 + (← hexValue? c)) * 16 + (← hexValue? d)
      let (us, rest) ← units? rest
      some (.ofCode code :: us, rest)
  | '\\' :: c :: rest => do
      let e ← shortEscape? c
      let (us, rest) ← units? rest
      some (.char e :: us, rest)
  | c :: rest =>
      if c.toNat < 32 ∨ c = '\\' then none
      else do
        let (us, rest) ← units? rest
        some (.char c :: us, rest)

/-- Joins surrogate pairs; an unpaired surrogate denotes no character. -/
def joined? : List TextUnit → Option (List Char)
  | [] => some []
  | .char c :: us => (joined? us).map (c :: ·)
  | .surrogate high :: .surrogate low :: us =>
      if high < 0xDC00 ∧ 0xDC00 ≤ low then
        let code := 0x10000 + (high - 0xD800) * 0x400 + (low - 0xDC00)
        (joined? us).map (Char.ofNat code :: ·)
      else none
  | .surrogate _ :: _ => none

/-- The string behind an opening quote; inside the result, nothing if it denotes no text. -/
def string? (cs : List Char) : Option (Option String × List Char) := do
  let (us, rest) ← units? cs
  some ((joined? us).map String.ofList, rest)

/-- Drops `word` from the front. -/
def expect? : List Char → List Char → Option (List Char)
  | [], cs => some cs
  | w :: ws, c :: cs => if w = c then expect? ws cs else none
  | _ :: _, [] => none

/-- An object, unless one of its keys denotes no text. -/
def ofMembers (members : List (Option String × Json)) : Json :=
  match members.mapM (fun m => m.1.map (fun key => (key, m.2))) with
  | some ms => .object ms
  | none => .unreadable

mutual

/-- A value at the front of a text, nested at most as deep as `fuel` allows. -/
def value? : Nat → List Char → Option (Json × List Char)
  | 0, _ => none
  | fuel + 1, cs =>
      match skipSpace cs with
      | [] => none
      | '"' :: rest => do
          let (s, rest) ← string? rest
          some (s.elim .unreadable .string, rest)
      | '[' :: rest =>
          match skipSpace rest with
          | ']' :: rest => some (.array [], rest)
          | rest => do
              let (item, rest) ← value? fuel rest
              let (items, rest) ← items? fuel rest
              some (.array (item :: items), rest)
      | '\x7b' :: rest =>
          match skipSpace rest with
          | '\x7d' :: rest => some (.object [], rest)
          | rest => do
              let (m, rest) ← pair? fuel rest
              let (ms, rest) ← members? fuel rest
              some (ofMembers (m :: ms), rest)
      | 't' :: rest => (expect? ['r', 'u', 'e'] rest).map (Json.bool true, ·)
      | 'f' :: rest => (expect? ['a', 'l', 's', 'e'] rest).map (Json.bool false, ·)
      | 'n' :: rest => (expect? ['u', 'l', 'l'] rest).map (Json.null, ·)
      | c :: rest => (numeral? (c :: rest)).map (fun found => (.number found.1, found.2))

/-- The items of an array after the first one, with the closing bracket. -/
def items? : Nat → List Char → Option (List Json × List Char)
  | 0, _ => none
  | fuel + 1, cs =>
      match skipSpace cs with
      | ']' :: rest => some ([], rest)
      | ',' :: rest => do
          let (item, rest) ← value? fuel rest
          let (items, rest) ← items? fuel rest
          some (item :: items, rest)
      | _ => none

/-- A key and its value. -/
def pair? : Nat → List Char → Option ((Option String × Json) × List Char)
  | 0, _ => none
  | fuel + 1, cs =>
      match skipSpace cs with
      | '"' :: rest => do
          let (key, rest) ← string? rest
          match skipSpace rest with
          | ':' :: rest => do
              let (value, rest) ← value? fuel rest
              some ((key, value), rest)
          | _ => none
      | _ => none

/-- The members of an object after the first one, with the closing brace. -/
def members? : Nat → List Char → Option (List (Option String × Json) × List Char)
  | 0, _ => none
  | fuel + 1, cs =>
      match skipSpace cs with
      | '\x7d' :: rest => some ([], rest)
      | ',' :: rest => do
          let (m, rest) ← pair? fuel rest
          let (ms, rest) ← members? fuel rest
          some (m :: ms, rest)
      | _ => none

end

/-- The value that a whole text writes. -/
def read? (text : String) : Option Json :=
  let cs := text.toList
  match value? (cs.length + 1) cs with
  | some (j, rest) => if skipSpace rest = [] then some j else none
  | none => none

end SupplyRisk.Json
