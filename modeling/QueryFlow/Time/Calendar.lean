/-!
# The calendar

Days are counted from 1970-01-01, which is day zero, in the proleptic Gregorian calendar. Years are
counted from March, so that a leap day is the last day of its year, and in eras of four hundred
years, which all have the same number of days.

Counted in this way a date becomes the number of its day by arithmetic alone. The days before a year
of an era are its leap days and 365 for each year; the days before a month that is counted from
March are 153 for every five months, rounded so that the lengths of the months come out. The way
back from a number to a date undoes these steps, with corrections for the days that end a cycle of
four, a hundred or four hundred years.

`Date.ofParts?` checks that the calendar has a date; `Date.toDay` counts for any numbers.
-/

namespace QueryFlow.Time

/-- A day of the calendar, by its year, its month and the day in it. The parts need not be those of
a day that exists; whoever reads a date checks that. -/
structure Date where
  /-- The year; year zero is the one before year one. -/
  year : Int
  /-- The month, from one. -/
  month : Nat
  /-- The day of the month, from one. -/
  day : Nat
deriving DecidableEq, Repr

/-- Every fourth year is a leap year, except three out of four full centuries. -/
def isLeapYear (year : Int) : Bool :=
  year % 4 == 0 && (year % 100 != 0 || year % 400 == 0)

/-- The number of days of a month. -/
def monthLength (year : Int) (month : Nat) : Nat :=
  if month == 2 then if isLeapYear year then 29 else 28
  else if month == 4 || month == 6 || month == 9 || month == 11 then 30
  else 31

/-- The days of four hundred years, 97 of which are leap years. -/
def eraLength : Int := 146097

/-- The day number of the first of March of year zero of the calendar. -/
def eraStart : Int := -719468

/-- The number of a day. January and February belong to the year before, since years start in March
here. -/
def Date.toDay (date : Date) : Int :=
  let year := if date.month ≤ 2 then date.year - 1 else date.year
  let era := year / 400
  let yearOfEra := year % 400
  let monthFromMarch := (date.month + 9) % 12
  let dayOfYear := (153 * monthFromMarch + 2) / 5 + date.day - 1
  eraStart + era * eraLength + yearOfEra * 365 + yearOfEra / 4 - yearOfEra / 100 + dayOfYear

/-- The day with a number. First the era and the day in it, then the year of the era, where a day
that ends a cycle is kept from starting a year of its own, and then the month from the day of the
year. -/
def Date.ofDay (number : Int) : Date :=
  let shifted := number - eraStart
  let era := shifted / eraLength
  let dayOfEra := (shifted % eraLength).toNat
  let yearOfEra := (dayOfEra - dayOfEra / 1460 + dayOfEra / 36524 - dayOfEra / 146096) / 365
  let dayOfYear := dayOfEra - (365 * yearOfEra + yearOfEra / 4 - yearOfEra / 100)
  let monthFromMarch := (5 * dayOfYear + 2) / 153
  let day := dayOfYear - (153 * monthFromMarch + 2) / 5 + 1
  let month := if monthFromMarch < 10 then monthFromMarch + 3 else monthFromMarch - 9
  let year := era * 400 + yearOfEra
  ⟨if month ≤ 2 then year + 1 else year, month, day⟩

/-- The date with this year, month and day, if the calendar has it. -/
def Date.ofParts? (year : Int) (month day : Nat) : Option Date :=
  if 1 ≤ month && month ≤ 12 && 1 ≤ day && day ≤ monthLength year month then
    some ⟨year, month, day⟩
  else none

end QueryFlow.Time
