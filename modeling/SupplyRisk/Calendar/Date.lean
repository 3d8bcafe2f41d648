import SupplyRisk.Decimal.Fixed

/-!
# Days of the proleptic Gregorian calendar

A `Date` is a day number, counted from 1970-01-01, inside the supported range from -262143-01-01 to
262142-12-31.  `civil` gives its year, month and day; a triple names a day if and only if it is the civil
form of the day it computes to (`Date.ofCivil?`), which refuses 30 February and month 13 alike.
-/

namespace SupplyRisk

/-- Year, month and day of month. -/
structure Civil where
  year : Int
  month : Int
  day : Int
deriving DecidableEq, Repr

namespace Civil

/-- The day number of a civil date, counted from 1970-01-01; years start in March for the count. -/
def dayNumber (c : Civil) : Int :=
  let year := if c.month ≤ 2 then c.year - 1 else c.year
  let era := year / 400
  let yearOfEra := year % 400
  let monthFromMarch := (c.month + 9) % 12
  let dayOfYear := (153 * monthFromMarch + 2) / 5 + c.day - 1
  let dayOfEra := yearOfEra * 365 + yearOfEra / 4 - yearOfEra / 100 + dayOfYear
  era * 146097 + dayOfEra - 719468

/-- The civil date of a day number. -/
def ofDayNumber (number : Int) : Civil :=
  let shifted := number + 719468
  let era := shifted / 146097
  let dayOfEra := shifted % 146097
  let yearOfEra :=
    (dayOfEra - dayOfEra / 1460 + dayOfEra / 36524 - dayOfEra / 146096) / 365
  let dayOfYear := dayOfEra - (365 * yearOfEra + yearOfEra / 4 - yearOfEra / 100)
  let monthFromMarch := (5 * dayOfYear + 2) / 153
  let day := dayOfYear - (153 * monthFromMarch + 2) / 5 + 1
  let month := if monthFromMarch < 10 then monthFromMarch + 3 else monthFromMarch - 9
  let year := yearOfEra + era * 400
  ⟨if month ≤ 2 then year + 1 else year, month, day⟩

end Civil

/-- A day between -262143-01-01 and 262142-12-31. -/
structure Date where
  number : Int
  first_le : -96465292 ≤ number
  le_last : number ≤ 95026236
deriving DecidableEq

namespace Date

def firstNumber : Int := -96465292

def lastNumber : Int := 95026236

/-- The day of a number, if it is supported. -/
def ofNumber? (number : Int) : Option Date :=
  if h : -96465292 ≤ number ∧ number ≤ 95026236 then some ⟨number, h.1, h.2⟩ else none

def civil (d : Date) : Civil := Civil.ofDayNumber d.number

/-- The day of a civil date, if there is one. -/
def ofCivil? (c : Civil) : Option Date :=
  if Civil.ofDayNumber c.dayNumber = c then ofNumber? c.dayNumber else none

instance : LT Date := ⟨fun a b => a.number < b.number⟩
instance : LE Date := ⟨fun a b => a.number ≤ b.number⟩
instance (a b : Date) : Decidable (a < b) := inferInstanceAs (Decidable (a.number < b.number))
instance (a b : Date) : Decidable (a ≤ b) := inferInstanceAs (Decidable (a.number ≤ b.number))

/-- The day so many days later, if it is supported. -/
def addDays? (d : Date) (days : Int) : Option Date := ofNumber? (d.number + days)

/-- The day so many days earlier, if it is supported. -/
def subDays? (d : Date) (days : Int) : Option Date := ofNumber? (d.number - days)

/-- A year: four digits from 0 to 9999, else a sign and at least four digits. -/
def yearText (year : Int) : List Char :=
  let magnitude := Decimal.paddedText 4 year.natAbs
  if 0 ≤ year ∧ year ≤ 9999 then magnitude
  else (if year < 0 then '-' else '+') :: magnitude

def civilText (c : Civil) : List Char :=
  yearText c.year ++ '-' :: Decimal.paddedText 2 c.month.natAbs
    ++ '-' :: Decimal.paddedText 2 c.day.natAbs

/-- A date as year, month and day with hyphens. -/
def chars (d : Date) : List Char := civilText d.civil

def text (d : Date) : String := String.ofList d.chars

end Date

end SupplyRisk
