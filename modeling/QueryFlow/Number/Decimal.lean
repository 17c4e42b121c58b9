import QueryFlow.Number.Binary64

/-!
# Decimal numerals

Reading and writing numbers in base ten.

* `digitsValue` — the value of a run of digits;
* `readNat?`, `readDecimal?` — a run of ASCII digits, and the double nearest to a numeral that may
  have one decimal point;
* `shortest` — the fewest decimal digits that read back as a given double, and of those the nearest
  to it;
* `positional`, `scientific` — the two layouts in which those digits are written.

## Shortest digits

The reals that read back as a double form an interval around it, half a unit of the last place to
either side, or a quarter below a power of two. All of it is counted in quarters of a unit, so the
double and both ends are whole numbers over one denominator, and every comparison is one of whole
numbers. Grids of one digit more each time are tried until one has a point in the interval;
seventeen digits are always enough, and of two points the nearer is taken.

Numbers of an ordinary size are written without an exponent and always with a point, so that they
can be told from whole numbers; others have one digit before the point and a signed exponent.
-/

namespace QueryFlow.Decimal

/-- The `k`-th power of ten. -/
def tens (k : Nat) : Nat := Nat.pow 10 k

/-- The value of a run of ASCII digits. -/
def digitsValue (digits : List Char) : Nat :=
  digits.foldl (fun n c => n * 10 + (c.toNat - 48)) 0

/-- A run of one or more ASCII digits as a number. -/
def readNat? (cs : List Char) : Option Nat :=
  if !cs.isEmpty && cs.all Char.isDigit then some (digitsValue cs) else none

/-- The double nearest to a numeral of ASCII digits with at most one decimal point and at least one
digit. -/
def readDecimal? (cs : List Char) : Option Binary64 :=
  let whole := cs.takeWhile Char.isDigit
  match cs.dropWhile Char.isDigit with
  | [] => if whole.isEmpty then none else some (Binary64.ofRatio false (digitsValue whole) 1)
  | '.' :: fraction =>
    if fraction.all Char.isDigit && !(whole.isEmpty && fraction.isEmpty) then
      some (Binary64.ofRatio false (digitsValue (whole ++ fraction)) (tens fraction.length))
    else none
  | _ => none

/-- The decimal digits of a number, without leading zeros. -/
def natDigits (n : Nat) : List Char := Nat.toDigits 10 n

/-- The text of an integer. -/
def intText (i : Int) : String :=
  (if i < 0 then "-" else "") ++ String.ofList (natDigits i.natAbs)

/-- The fraction `num / den` counted in units of `10 ^ k`, as numerator and denominator. -/
def inTens (num den : Nat) (k : Int) : Nat × Nat :=
  if 0 ≤ k then (num, den * tens k.toNat) else (num * tens (-k).toNat, den)

/-- The exponent of the leading decimal digit of `num / den`, which is not zero: counts tenfold
steps up from below one, within `fuel` of them. -/
def leadingExponent (num den : Nat) : Nat → Int
  | 0 => 0
  | fuel + 1 =>
    if den ≤ num then Int.ofNat ((natDigits (num / den)).length - 1)
    else leadingExponent (num * 10) den fuel - 1

/-- The shortest digits of a finite positive double with mantissa `m` and exponent `q`, and the
power of ten of the last of them.

The reals that read back as the double form an interval that has its ends exactly if `m` is even.
The first grid of 1, 2, … 17 significant digits with a point in that interval has one next to the
double itself. Of two such points the nearer is taken, and of two equally near the even one. -/
def shortest (m : Nat) (q : Int) : Nat × Int :=
  let up := 1 <<< q.toNat
  let den := 4 <<< (-q).toNat
  let value := 4 * m * up
  let low := (if m == 1 <<< 52 && q != -1074 then 4 * m - 1 else 4 * m - 2) * up
  let high := (4 * m + 2) * up
  let closed := m % 2 == 0
  let lead := leadingExponent value den 400
  let attempt (count : Nat) : Option (Nat × Int) :=
    let k := lead - Int.ofNat count
    let (vn, vd) := inTens value den k
    let (ln, ld) := inTens low den k
    let (hn, hd) := inTens high den k
    let below := vn / vd
    let fitsBelow := if closed then ln ≤ below * ld else ln < below * ld
    let fitsAbove := if closed then (below + 1) * hd ≤ hn else (below + 1) * hd < hn
    let twice := 2 * (vn % vd)
    if fitsBelow && fitsAbove then
      if twice < vd || (twice == vd && below % 2 == 0) then some (below, k) else some (below + 1, k)
    else if fitsBelow then some (below, k)
    else if fitsAbove then some (below + 1, k)
    else none
  match (List.range 17).findSome? attempt with
  | some found => found
  | none => (m, q)

/-- Drops trailing zeros of a digit count, moving them to the power of ten. -/
def dropZeros (digits : List Char) (k : Int) : List Char × Int :=
  let zeros := (digits.reverse.takeWhile (· == '0')).length
  (digits.take (digits.length - zeros), k + Int.ofNat zeros)

/-- Writes `digits · 10 ^ k` without an exponent and always with a decimal point. -/
def positional (digits : List Char) (k : Int) : List Char :=
  if 0 ≤ k then digits ++ List.replicate k.toNat '0' ++ ['.', '0']
  else
    let after := (-k).toNat
    if after < digits.length then
      digits.take (digits.length - after) ++ '.' :: digits.drop (digits.length - after)
    else '0' :: '.' :: (List.replicate (after - digits.length) '0' ++ digits)

/-- Writes `digits · 10 ^ k` with one digit before the point, no point if there is no other digit,
and a signed exponent. -/
def scientific (digits : List Char) (k : Int) : List Char :=
  let exponent := k + Int.ofNat (digits.length - 1)
  let mantissa := match digits with
    | [] => ['0']
    | [d] => [d]
    | d :: more => d :: '.' :: more
  mantissa ++ 'e' :: (if exponent < 0 then '-' else '+') :: natDigits exponent.natAbs

/-- The significant digits of a finite double without its sign, and their power of ten. -/
def significant (m : Nat) (q : Int) : List Char × Int :=
  let (n, k) := shortest m q
  dropZeros (natDigits n) k

/-- The text of a finite double in a document: positional from `10 ^ -5` up to below `10 ^ 16`,
and with an exponent elsewhere. A double that is not finite has no text. -/
def compact? (x : Binary64) : Option String :=
  match x.decode with
  | .finite negative m q =>
    let body := if m == 0 then ['0', '.', '0']
      else
        let (digits, k) := significant m q
        let lead := k + Int.ofNat (digits.length - 1)
        if -5 ≤ lead && lead < 16 then positional digits k else scientific digits k
    some ((if negative then "-" else "") ++ String.ofList body)
  | _ => none

end QueryFlow.Decimal
