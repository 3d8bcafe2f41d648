import SupplyRisk.Calendar.Date.Reader
import SupplyRisk.Text.Hexadecimal
import SupplyRisk.Toml.Value

/-!
# Words, numbers and times of TOML

The values without delimiters: the two truth values, integers in four bases, floats, and dates and times.
Single underscores may stand between digits.  Numbers in decimal have no leading zeros.
-/

namespace SupplyRisk.Toml

open Decimal
open Text (digitValue?)

/-! ## Numbers -/

/-- Digits of a base with single underscores between them. -/
def digitGroup? (base : Nat) : List Char → Option (List Nat)
  | [] => none
  | [c] => (digitValue? base c).map ([·])
  | c :: '_' :: cs => do some ((← digitValue? base c) :: (← digitGroup? base cs))
  | c :: cs => do some ((← digitValue? base c) :: (← digitGroup? base cs))

def valueIn (base : Nat) (digits : List Nat) : Nat := digits.foldl (fun n d => n * base + d) 0

/-- Digits in decimal that do not start with a zero, unless zero is the only one. -/
def wholeDigits? (cs : List Char) : Option (List Nat) :=
  match digitGroup? 10 cs with
  | some (0 :: _ :: _) => none
  | found => found

/-- An integer behind the mark of its base. -/
def basedInteger? : List Char → Option Toml
  | '0' :: 'x' :: cs => (digitGroup? 16 cs).map (fun ds => ofInt (valueIn 16 ds))
  | '0' :: 'o' :: cs => (digitGroup? 8 cs).map (fun ds => ofInt (valueIn 8 ds))
  | '0' :: 'b' :: cs => (digitGroup? 2 cs).map (fun ds => ofInt (valueIn 2 ds))
  | _ => none

/-- The exponent of a float: digits with an optional sign. -/
def exponent? : List Char → Option Int
  | '+' :: cs => (digitGroup? 10 cs).map (fun ds => (valueIn 10 ds : Int))
  | '-' :: cs => (digitGroup? 10 cs).map (fun ds => -(valueIn 10 ds : Int))
  | cs => (digitGroup? 10 cs).map (fun ds => (valueIn 10 ds : Int))

/-- The digits behind a point and the exponent, as far as there are any. -/
def fraction? (cs : List Char) : Option (List Nat × Int) :=
  let isMark := fun c => c = 'e' || c = 'E'
  let (digits, power) := (cs.takeWhile (!isMark ·), cs.dropWhile (!isMark ·))
  do
    let digits ← match digits with
      | [] => some []
      | '.' :: ds => digitGroup? 10 ds
      | _ => none
    let power ← match power with
      | [] => some 0
      | _ :: ds => exponent? ds
    some (digits, power)

/-- The double nearest to digits times a power of ten; nothing beyond the largest double.  Powers that are far
out of range are not computed. -/
def nearest? (digits : List Nat) (power : Int) : Option Float :=
  let coefficient := valueIn 10 digits
  let place := (digits.length : Int) + power
  if coefficient = 0 ∨ place < -400 then some 0
  else if 400 + (digits.length : Int) < place then none
  else
    let x := Binary64.ofDecimal coefficient power
    if x.isInf then none else some x

/-- A number in decimal, without its sign. -/
def unsigned? (negative : Bool) (cs : List Char) : Option Toml := do
  let isWhole := fun c : Char => c.isDigit || c = '_'
  let whole ← wholeDigits? (cs.takeWhile isWhole)
  match cs.dropWhile isWhole with
  | [] =>
      let n : Int := valueIn 10 whole
      some (ofInt (if negative then -n else n))
  | rest =>
      let (digits, power) ← fraction? rest
      match nearest? (whole ++ digits) (power - digits.length) with
      | some x => some (float (if negative then -x else x))
      | none => some unreadable

/-- Infinity and the undefined number. -/
def special? (negative : Bool) : List Char → Option Toml
  | ['i', 'n', 'f'] => some (float (if negative then -1.0 / 0.0 else 1.0 / 0.0))
  | ['n', 'a', 'n'] => some (float (0.0 / 0.0))
  | _ => none

def number? : List Char → Option Toml
  | '+' :: cs => special? false cs <|> unsigned? false cs
  | '-' :: cs => special? true cs <|> unsigned? true cs
  | cs => special? false cs <|> basedInteger? cs <|> unsigned? false cs

/-! ## Dates and times -/

/-- A number of exactly `count` digits. -/
def fixedNumber? (count : Nat) (cs : List Char) : Option (Nat × List Char) :=
  let (ds, rest) := Date.takeDigits count cs
  if ds.length = count then some (ofDigits 0 ds, rest) else none

def mark? (c : Char) : List Char → Option (List Char)
  | d :: rest => if c = d then some rest else none
  | [] => none

/-- Drops a date at the front of a text. -/
def date? (cs : List Char) : Option (List Char) := do
  let (year, cs) ← fixedNumber? 4 cs
  let cs ← mark? '-' cs
  let (month, cs) ← fixedNumber? 2 cs
  let cs ← mark? '-' cs
  let (day, cs) ← fixedNumber? 2 cs
  let civil : Civil := ⟨year, month, day⟩
  if Civil.ofDayNumber civil.dayNumber = civil then some cs else none

/-- Drops the digits behind a point, of which there is at least one. -/
def afterFraction? : List Char → Option (List Char)
  | '.' :: c :: cs => if c.isDigit then some (cs.dropWhile Char.isDigit) else none
  | '.' :: [] => none
  | cs => some cs

/-- Drops the seconds of a time, if there are any. -/
def afterSeconds? : List Char → Option (List Char)
  | ':' :: cs => do
      let (second, cs) ← fixedNumber? 2 cs
      if second ≤ 60 then afterFraction? cs else none
  | cs => some cs

/-- Drops hours and minutes. -/
def afterMinutes? (cs : List Char) : Option (List Char) := do
  let (hour, cs) ← fixedNumber? 2 cs
  let cs ← mark? ':' cs
  let (minute, cs) ← fixedNumber? 2 cs
  if hour < 24 ∧ minute < 60 then some cs else none

/-- Drops a time of day. -/
def time? (cs : List Char) : Option (List Char) := (afterMinutes? cs).bind afterSeconds?

/-- Drops an offset from universal time, if there is one. -/
def afterOffset? : List Char → Option (List Char)
  | 'Z' :: cs => some cs
  | 'z' :: cs => some cs
  | '+' :: cs => afterMinutes? cs
  | '-' :: cs => afterMinutes? cs
  | cs => some cs

/-- Whether a word is a date, a time or both. -/
def isDatetime (cs : List Char) : Bool :=
  match date? cs with
  | some [] => true
  | some (c :: rest) =>
      (c = 'T' || c = 't' || c = ' ') && ((time? rest).bind afterOffset?) == some []
  | none => time? cs == some []

def datetime? (cs : List Char) : Option Toml :=
  if isDatetime cs then some (datetime (String.ofList cs)) else none

/-! ## Words -/

/-- The value of a word. -/
def word? (cs : List Char) : Option Toml :=
  match cs with
  | ['t', 'r', 'u', 'e'] => some (boolean true)
  | ['f', 'a', 'l', 's', 'e'] => some (boolean false)
  | _ => number? cs <|> datetime? cs

/-- Characters that end a word. -/
def endsWord (c : Char) : Bool :=
  [' ', '\t', '\n', '\r', '#', ',', '[', ']', '\x7b', '\x7d', '=', '"', '\''].contains c

/-- The word at the front of a text.  A blank between a date and a time belongs to the word. -/
def takeWord (cs : List Char) : List Char × List Char :=
  let first := cs.takeWhile (!endsWord ·)
  match date? first, cs.dropWhile (!endsWord ·) with
  | some [], ' ' :: c :: rest =>
      if c.isDigit then
        (first ++ ' ' :: (c :: rest).takeWhile (!endsWord ·), (c :: rest).dropWhile (!endsWord ·))
      else (first, ' ' :: c :: rest)
  | _, rest => (first, rest)

end SupplyRisk.Toml
