import SupplyRisk.Text.Hexadecimal

/-!
# Quoted titles

The form in which a title stands inside an error message: in double quotes, with quotes, backslashes, tabs and
line ends escaped, and characters that have no visible form written by their hexadecimal code.
-/

namespace SupplyRisk.Text

/-- Characters that are written by their code: controls, format characters, separators other than the
blank, private use and what is not assigned in these ranges. -/
def isInvisible (c : Char) : Bool :=
  let n := c.toNat
  n < 0x20 || (0x7F ≤ n && n < 0xA1) || n = 0xAD
    || (0x600 ≤ n && n ≤ 0x605) || n = 0x61C || n = 0x6DD || n = 0x70F || n = 0x1680 || n = 0x180E
    || (0x2000 ≤ n && n ≤ 0x200F) || (0x2028 ≤ n && n ≤ 0x202F) || (0x205F ≤ n && n ≤ 0x206F)
    || n = 0x3000 || (0xE000 ≤ n && n ≤ 0xF8FF) || n = 0xFEFF || (0xFFF0 ≤ n && n ≤ 0xFFFB)
    || n = 0xFFFE || n = 0xFFFF || (0xE0000 ≤ n && n ≤ 0xE00FF) || 0xE01F0 ≤ n

/-- Marks that combine with the character before them; they are written by their code as well. -/
def isCombining (c : Char) : Bool :=
  let n := c.toNat
  (0x300 ≤ n && n ≤ 0x36F) || (0x483 ≤ n && n ≤ 0x489) || (0x591 ≤ n && n ≤ 0x5BD)
    || (0x610 ≤ n && n ≤ 0x61A) || (0x64B ≤ n && n ≤ 0x65F) || (0x1AB0 ≤ n && n ≤ 0x1ACE)
    || (0x1DC0 ≤ n && n ≤ 0x1DFF) || n = 0x200C || (0x20D0 ≤ n && n ≤ 0x20F0)
    || (0xFE00 ≤ n && n ≤ 0xFE0F) || (0xFE20 ≤ n && n ≤ 0xFE2F) || (0xE0100 ≤ n && n ≤ 0xE01EF)

def quotedChar (c : Char) : List Char :=
  if c = '"' then ['\\', '"']
  else if c = '\\' then ['\\', '\\']
  else if c = '\n' then ['\\', 'n']
  else if c = '\r' then ['\\', 'r']
  else if c = '\t' then ['\\', 't']
  else if c.toNat = 0 then ['\\', '0']
  else if isInvisible c || isCombining c then '\\' :: 'u' :: '\x7b' :: hexText c.toNat ++ ['\x7d']
  else [c]

/-- A title in quotes. -/
def quoted (s : String) : String := String.ofList ('"' :: s.toList.flatMap quotedChar ++ ['"'])

end SupplyRisk.Text
