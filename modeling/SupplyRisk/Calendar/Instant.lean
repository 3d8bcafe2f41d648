import SupplyRisk.Calendar.Date

/-!
# Instants in coordinated universal time

An `Instant` is a second of the supported range of days and a count of nanoseconds in it.  A leap second
is the second before it with a billion nanoseconds more, so instants compare by second, then nanosecond.
Moving an instant by seconds leaves a leap second; an empty step changes nothing.
-/

namespace SupplyRisk

/-- The number of nanoseconds in a second. -/
abbrev billion : Nat := 1000000000

structure Instant where
  /-- Seconds since the start of 1970. -/
  seconds : Int
  nanos : Nat
  first_le : -96465292 * 86400 ≤ seconds
  lt_end : seconds < 95026237 * 86400
  nanos_lt : nanos < 2000000000
  /-- Leap seconds end a minute. -/
  leap_ends_minute : 1000000000 ≤ nanos → seconds % 60 = 59
deriving DecidableEq

namespace Instant

/-- The instant with these parts, if they are in range. -/
def ofParts? (seconds : Int) (nanos : Nat) : Option Instant :=
  if h : -96465292 * 86400 ≤ seconds ∧ seconds < 95026237 * 86400 ∧ nanos < 2000000000 ∧
      (1000000000 ≤ nanos → seconds % 60 = 59) then
    some ⟨seconds, nanos, h.1, h.2.1, h.2.2.1, h.2.2.2⟩
  else none

/-- The day of an instant. -/
def date (i : Instant) : Date :=
  ⟨i.seconds / 86400, by have := i.first_le; omega, by have := i.lt_end; omega⟩

/-- Seconds since midnight. -/
def secondOfDay (i : Instant) : Nat := (i.seconds % 86400).toNat

/-- Midnight of a day. -/
def midnight (d : Date) : Instant :=
  ⟨d.number * 86400, 0, by have := d.first_le; omega, by have := d.le_last; omega, by decide,
    by omega⟩

/-- Earlier, or equal. -/
def le (a b : Instant) : Bool :=
  a.seconds < b.seconds || (a.seconds = b.seconds && a.nanos ≤ b.nanos)

/-- The instant so many seconds later, if it is supported. -/
def addSeconds? (i : Instant) (seconds : Int) : Option Instant :=
  if i.nanos < billion ∨ seconds = 0 then ofParts? (i.seconds + seconds) i.nanos
  else if 0 < seconds then ofParts? (i.seconds + seconds) (i.nanos - billion)
  else ofParts? (i.seconds + seconds + 1) (i.nanos - billion)

/-- The instant so many hours earlier, if it is supported. -/
def subHours? (i : Instant) (hours : Nat) : Option Instant := i.addSeconds? (-(hours * 3600 : Int))

/-- The fewest of 3, 6 or 9 digits that show a fraction of a second. -/
def fractionText (nanos : Nat) : List Char :=
  if nanos = 0 then []
  else if nanos % 1000000 = 0 then '.' :: Decimal.paddedText 3 (nanos / 1000000)
  else if nanos % 1000 = 0 then '.' :: Decimal.paddedText 6 (nanos / 1000)
  else '.' :: Decimal.paddedText 9 nanos

/-- Hours, minutes and, unless `short`, seconds. -/
def clockText (i : Instant) (short : Bool) : List Char :=
  let second := i.secondOfDay
  let hours := Decimal.paddedText 2 (second / 3600)
  let minutes := Decimal.paddedText 2 (second / 60 % 60)
  let shown := second % 60 + i.nanos / billion
  hours ++ ':' :: minutes
    ++ (if short then [] else ':' :: Decimal.paddedText 2 shown ++ fractionText (i.nanos % billion))

def chars (i : Instant) : List Char := i.date.chars ++ 'T' :: i.clockText false ++ ['Z']

/-- An instant as date, `T`, time of day and `Z`. -/
def text (i : Instant) : String := String.ofList i.chars

/-- An instant to the minute, as lists show it. -/
def minuteText (i : Instant) : String := String.ofList (i.date.chars ++ ' ' :: i.clockText true)

end Instant

end SupplyRisk
