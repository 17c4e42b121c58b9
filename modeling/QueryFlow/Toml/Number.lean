import QueryFlow.Number.Binary64
import QueryFlow.Number.Decimal
import QueryFlow.Time.Calendar
import QueryFlow.Toml.Scan

/-!
# Numbers and dates in TOML

Digits may be grouped by underscores, each of which stands between two digits. A whole number has no
leading zeros, and fits into 64 bits with its sign; behind a mark it may be written in base two,
eight or sixteen. A floating point number has a fraction or an exponent, and must not be too large.

Of floating point numbers and dates only the form is read, since no setting has such a value. Still
a date must be one of the calendar, an hour one of a day, and a number one that a double can hold:
`isTooLarge` decides that by the number of digits, and rounds only where this leaves the question
open.

## The order in which values are tried

A value that starts with a digit may be a date, a floating point number or a whole number, and these
are tried in this order. A whole number is therefore never tried where one of the others would do,
and it must be shown that a whole number which was written is neither of them: this is the work of
`Proofs.Toml.Number`.

## Main statement

* `digitRun_of_digits`: a run of digits without underscores is read as it is.
-/

namespace QueryFlow.Toml

open Scan Decimal

/-- A digit of a base, in upper or lower case. -/
def isDigitOf (base : Nat) (c : Char) : Bool :=
  if base = 16 then c.isDigit || ('a' ≤ c && c ≤ 'f') || ('A' ≤ c && c ≤ 'F')
  else '0' ≤ c && c.toNat < 48 + base

/-- The value of a digit. -/
def digitOf (c : Char) : Nat :=
  if c.isDigit then c.toNat - 48 else if c.isLower then c.toNat - 87 else c.toNat - 55

/-- The value of digits in a base. -/
def valueIn (base : Nat) (digits : List Char) : Nat :=
  digits.foldl (fun n c => base * n + digitOf c) 0

/-- Digits of a base, with single underscores between them, which are left out. An underscore with
no digit behind it is not taken. -/
def digitRun (p : Char → Bool) : Scan (List Char) := do
  let first ← spanOf1 p
  let more ← many do
    attempt do
      exactly '_'
      spanOf1 p
  return first ++ more.flatten

/-- A sign, and whether it is a minus. -/
def sign : Scan Bool := do
  if ← accept '-' then return true
  else
    let _ ← accept '+'
    return false

/-- The digits of a whole number in base ten, which does not start with a zero unless it is zero. -/
def wholeDigits : Scan (List Char) := do
  match ← peek with
  | some '0' =>
    let _ ← next
    return ['0']
  | _ => digitRun Char.isDigit

/-- The whole numbers that fit into 64 bits with a sign. -/
def fits (n : Int) : Bool := decide (-9223372036854775808 ≤ n ∧ n ≤ 9223372036854775807)

/-- A whole number. -/
def whole (n : Int) : Scan Int := if fits n then return n else refuse

/-- A whole number behind the mark of its base. -/
def marked (mark : Char) (base : Nat) : Scan Int := do
  phrase ['0', mark]
  whole (valueIn base (← digitRun (isDigitOf base)))

/-- A whole number in base ten. -/
def decimalInteger : Scan Int := do
  let negative ← sign
  let n := digitsValue (← wholeDigits)
  whole (if negative then -(n : Int) else n)

/-- A whole number. -/
def integer : Scan Int :=
  marked 'x' 16 <|> marked 'o' 8 <|> marked 'b' 2 <|> decimalInteger

/-- The fraction of a floating point number. -/
def fraction : Scan (List Char) := do
  exactly '.'
  digitRun Char.isDigit

/-- The exponent of a floating point number. -/
def exponent : Scan Int := do
  let mark ← next
  if mark == 'e' || mark == 'E' then
    let negative ← sign
    let n := digitsValue (← digitRun Char.isDigit)
    return if negative then -(n : Int) else n
  else refuse

/-- The number `digits · 10 ^ power` is too large for a double. -/
def isTooLarge (digits : List Char) (power : Int) : Bool :=
  let length := (digits.dropWhile (· == '0')).length
  if length = 0 then false
  else if (length : Int) + power < 300 then false
  else if 400 < (length : Int) + power then true
  else (Binary64.ofRatio false (digitsValue digits * tens power.toNat) (tens (-power).toNat)).bits
    == (Binary64.infinity false).bits

/-- A floating point number with a fraction or an exponent. It is refused if it is too large for a
double, unless it has a minus. -/
def pointedFloat : Scan Unit := do
  let negative ← sign
  let before ← wholeDigits
  let behind ← attempt fraction
  let power ← attempt exponent
  if behind.isNone && power.isNone then refuse
  let behind := behind.getD []
  if !negative && isTooLarge (before ++ behind) (power.getD 0 - behind.length) then refuse

/-- A floating point number. -/
def float : Scan Unit :=
  pointedFloat <|> do
    let _ ← sign
    phrase ['i', 'n', 'f'] <|> phrase ['n', 'a', 'n']

/-! ### Dates -/

/-- A number of as many digits. -/
def digitField (count : Nat) : Scan Nat := fun cs =>
  let digits := cs.take count
  if digits.length = count && digits.all Char.isDigit then
    some (digitsValue digits, cs.drop count)
  else none

/-- A day of the calendar. -/
def day : Scan Unit := do
  let year ← digitField 4
  exactly '-'
  let month ← digitField 2
  exactly '-'
  let day ← digitField 2
  if (Time.Date.ofParts? year month day).isNone then refuse

/-- An hour and a minute. -/
def hourAndMinute : Scan Unit := do
  let hour ← digitField 2
  exactly ':'
  let minute ← digitField 2
  if 23 < hour || 59 < minute then refuse

/-- A time of day. -/
def timeOfDay : Scan Unit := do
  hourAndMinute
  exactly ':'
  if 60 < (← digitField 2) then refuse
  if ← accept '.' then
    let _ ← spanOf1 Char.isDigit

/-- How far the clock is from the standard one. -/
def offset : Scan Unit := do
  let mark ← next
  if mark == '+' || mark == '-' then hourAndMinute
  else if mark != 'Z' && mark != 'z' then refuse

/-- A day, a time of day, or both, with an offset from the standard clock or without one. -/
def date : Scan Unit :=
  (do
    day
    let _ ← attempt do
      let mark ← next
      if mark == 'T' || mark == 't' || mark == ' ' then timeOfDay else refuse
      attempt offset) <|> timeOfDay

/-- **A run of digits without underscores is read as it is.** -/
theorem digitRun_of_digits {p : Char → Bool} {digits rest : List Char} (filled : digits ≠ [])
    (all : ∀ c ∈ digits, p c = true) (ends : ∀ c, rest.head? = some c → p c = false ∧ c ≠ '_') :
    digitRun p (digits ++ rest) = some (digits, rest) := by
  have run : spanOf1 p (digits ++ rest) = some (digits, rest) :=
    spanOf1_append filled all fun c h => (ends c h).1
  have stop : exactly '_' rest = none := by
    cases rest with
    | nil => rfl
    | cons c rest => simp [exactly, (ends c rfl).2]
  simp [digitRun, many, manyUpTo, attempt, bind_apply, run, stop]

end QueryFlow.Toml
