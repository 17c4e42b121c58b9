import QueryFlow.Time.Instant
import QueryFlow.Number.Decimal
import QueryFlow.Text.Blank

/-!
# Written instants

* `Instant.format` writes an instant as date, `T`, time and `Z`. The fraction of the second has no,
  three, six or nine digits, the fewest that are exact; a leap second is second sixty; and a year
  outside four digits has a sign.
* `Instant.read?` reads a date and a time of day, with a blank gap or a `T` between them and an
  optional fraction of the second. White space may stand in front of each number.

The two are not each other's inverse and are not meant to be: what is written ends in a `Z`, which
is not read, and what is read may leave out leading zeros. A report writes instants and a history
gives them to be read.

A number takes as many digits as its field has room for, so that what follows a full field belongs
to the next mark. Of the fraction of a second nine digits count and the others are passed over,
which cuts it down to whole nanoseconds. Second sixty is the leap second behind second fifty-nine
and may stand in any minute of a day.
-/

namespace QueryFlow.Time

open QueryFlow.Text QueryFlow.Decimal

/-- The digits of a number with leading zeros up to a width. -/
def pad (width n : Nat) : List Char :=
  let digits := natDigits n
  List.replicate (width - digits.length) '0' ++ digits

/-- The digits of a year. -/
def yearDigits (year : Int) : List Char :=
  if 0 ≤ year ∧ year ≤ 9999 then pad 4 year.toNat
  else (if year < 0 then '-' else '+') :: pad 4 year.natAbs

/-- The fraction of a second, with its point. -/
def fractionDigits (nano : Nat) : List Char :=
  if nano == 0 then []
  else if nano % 1000000 == 0 then '.' :: pad 3 (nano / 1000000)
  else if nano % 1000 == 0 then '.' :: pad 6 (nano / 1000)
  else '.' :: pad 9 nano

/-- The written form of an instant. -/
def Instant.format (t : Instant) : String :=
  let date := Date.ofDay t.day
  let second := t.second % 60 + if t.isLeap then 1 else 0
  let nano := if t.isLeap then t.nano - 1000000000 else t.nano
  String.ofList (
    yearDigits date.year ++ '-' :: pad 2 date.month ++ '-' :: pad 2 date.day ++
    'T' :: pad 2 (t.second / 3600) ++ ':' :: pad 2 (t.second / 60 % 60) ++ ':' :: pad 2 second ++
    fractionDigits nano ++ ['Z'])

/-! ### Reading -/

/-- A number of at least one and at most `width` digits after optional white space, and what follows
it, which may start with a further digit. -/
def numberField? (width : Nat) (cs : List Char) : Option (Nat × List Char) :=
  let cs := trimStart cs
  let digits := (cs.take width).takeWhile Char.isDigit
  if digits.isEmpty then none else some (digitsValue digits, cs.drop digits.length)

/-- A year: up to four digits, or any number of digits behind a sign. -/
def yearField? (cs : List Char) : Option (Int × List Char) :=
  match trimStart cs with
  | '-' :: rest => (numberRun? rest).map fun (n, rest) => (-Int.ofNat n, rest)
  | '+' :: rest => (numberRun? rest).map fun (n, rest) => (Int.ofNat n, rest)
  | rest => (numberField? 4 rest).map fun (n, rest) => (Int.ofNat n, rest)
where
  /-- A run of digits and what follows it. -/
  numberRun? (cs : List Char) : Option (Nat × List Char) :=
    let digits := cs.takeWhile Char.isDigit
    if digits.isEmpty then none else some (digitsValue digits, cs.dropWhile Char.isDigit)

/-- What follows one given character. -/
def mark? (c : Char) : List Char → Option (List Char)
  | [] => none
  | d :: rest => if d == c then some rest else none

/-- An optional fraction of the second in nanoseconds, of which nine digits count, and what follows
it. -/
def fractionField? : List Char → Option (Nat × List Char)
  | '.' :: rest =>
    let digits := rest.takeWhile Char.isDigit
    if digits.isEmpty then none
    else
      let kept := digits.take 9
      some (digitsValue kept * tens (9 - kept.length), rest.dropWhile Char.isDigit)
  | rest => some (0, rest)

/-- Reads the time of day, up to the end of the text, as the second of the day and the nanosecond.
Second sixty is the leap second behind the second before it. -/
def timeOfDay? (cs : List Char) : Option (Nat × Nat) := do
  let (hour, cs) ← numberField? 2 cs
  let (minute, cs) ← numberField? 2 (← mark? ':' cs)
  let (second, cs) ← numberField? 2 (← mark? ':' cs)
  let (nano, cs) ← fractionField? cs
  if hour < 24 && minute < 60 && second ≤ 60 && cs.isEmpty then
    if second == 60 then some (hour * 3600 + minute * 60 + 59, 1000000000 + nano)
    else some (hour * 3600 + minute * 60 + second, nano)
  else none

/-- Reads the date, and gives what follows it. -/
def date? (cs : List Char) : Option (Date × List Char) := do
  let (year, cs) ← yearField? cs
  let (month, cs) ← numberField? 2 (← mark? '-' cs)
  let (day, cs) ← numberField? 2 (← mark? '-' cs)
  let date ← Date.ofParts? year month day
  some (date, cs)

/-- Reads an instant written as a date and a time of day. Between them may stand white space, or a
`T` directly behind the date; white space is tried first. -/
def Instant.read? (cs : List Char) : Option Instant := do
  let (date, cs) ← date? cs
  let time := match timeOfDay? (trimStart cs) with
    | some time => some time
    | none => (mark? 'T' cs).bind timeOfDay?
  let (second, nano) ← time
  Instant.ofParts? date.toDay second nano

end QueryFlow.Time
