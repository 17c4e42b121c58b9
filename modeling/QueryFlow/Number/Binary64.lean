/-!
# Double-precision numbers, exactly

A double is kept as its 64 bits and every operation is exact integer arithmetic followed by one
rounding, so that a number read, scaled or written here is the same on every machine, and can be
computed by the kernel like any other value.

* `Binary64.decode` — a double is not a number, an infinity, or `± m · 2 ^ q`;
* `Binary64.ofRatio` — the double nearest to a fraction, ties to the even mantissa;
* `Binary64.mul`, `Binary64.div` — products and quotients, rounded once;
* `Binary64.roundHalfAway` — the nearest integer, halves away from zero.

## Rounding

`ofRatio` is the only place where a mantissa is made. It finds the exponent for which the fraction,
counted in units of the last place, has fifty-three bits, with the smallest exponent as a floor, and
rounds that quotient once. The mantissa and the exponent are then added as one number: a mantissa
that rounds up to the next power of two carries into the exponent, a subnormal number that rounds up
becomes normal, and too large a number runs into the bits of infinity, all without a case of its
own.

## Main statement

* `roundHalfAway_nonneg`: a number without a sign rounds to a number without a sign.
-/

namespace QueryFlow

/-- A double-precision number, as its bits. -/
structure Binary64 where
  /-- Sign, eleven exponent bits and fifty-two mantissa bits, from the top. -/
  bits : UInt64
deriving DecidableEq, Inhabited

namespace Binary64

/-- What a double stands for. A finite one is `± mantissa · 2 ^ exponent`, and zero has a sign too.
-/
inductive Shape
  | notANumber
  | infinite (negative : Bool)
  | finite (negative : Bool) (mantissa : Nat) (exponent : Int)
deriving DecidableEq, Repr

/-- The number that the bits stand for. -/
def decode (x : Binary64) : Shape :=
  let n := x.bits.toNat
  let negative := n >>> 63 == 1
  let field := (n >>> 52) % 2048
  let fraction := n % (1 <<< 52)
  if field == 2047 then
    if fraction == 0 then .infinite negative else .notANumber
  else if field == 0 then .finite negative fraction (-1074)
  else .finite negative ((1 <<< 52) + fraction) (Int.ofNat field - 1075)

/-- Zero with a sign. -/
def zero (negative : Bool) : Binary64 := ⟨if negative then 0x8000000000000000 else 0⟩

/-- Infinity with a sign. -/
def infinity (negative : Bool) : Binary64 :=
  ⟨if negative then 0xFFF0000000000000 else 0x7FF0000000000000⟩

/-- The quotient rounded to the nearest integer, a half to the even one. -/
def roundHalfEven (num den : Nat) : Nat :=
  let quotient := num / den
  let rest := num % den
  if 2 * rest < den then quotient
  else if den < 2 * rest then quotient + 1
  else if quotient % 2 == 0 then quotient else quotient + 1

/-- The fraction `num / den`, counted in units of `2 ^ e`, as numerator and denominator. -/
def inUnits (num den : Nat) (e : Int) : Nat × Nat :=
  if 0 ≤ e then (num, den <<< e.toNat) else (num <<< (-e).toNat, den)

/-- The double nearest to `± num / den`, a tie to the even mantissa. Mantissa and exponent are added
up as one number, so that a carry needs no case of its own. -/
def ofRatio (negative : Bool) (num den : Nat) : Binary64 :=
  if num == 0 then zero negative
  else
    let guess : Int := (Int.ofNat num.log2 - Int.ofNat den.log2) - 52
    let (n, d) := inUnits num den guess
    let normal := if n / d < 1 <<< 52 then guess - 1 else guess
    let e := max normal (-1074)
    let (n, d) := inUnits num den e
    let magnitude := ((e + 1074).toNat <<< 52) + roundHalfEven n d
    if 2047 <<< 52 ≤ magnitude then infinity negative
    else ⟨UInt64.ofNat (magnitude + if negative then 1 <<< 63 else 0)⟩

/-- The double nearest to `± mantissa · 2 ^ exponent`. -/
def ofScaled (negative : Bool) (mantissa : Nat) (exponent : Int) : Binary64 :=
  if 0 ≤ exponent then ofRatio negative (mantissa <<< exponent.toNat) 1
  else ofRatio negative mantissa (1 <<< (-exponent).toNat)

/-- The double nearest to an integer. -/
def ofInt (i : Int) : Binary64 := ofRatio (i < 0) i.natAbs 1

/-- The product, rounded once. -/
def mul (x y : Binary64) : Binary64 :=
  match x.decode, y.decode with
  | .finite s m e, .finite t n f => ofScaled (s != t) (m * n) (e + f)
  | .finite s m _, .infinite t => if m == 0 then ⟨0x7FF8000000000000⟩ else infinity (s != t)
  | .infinite s, .finite t n _ => if n == 0 then ⟨0x7FF8000000000000⟩ else infinity (s != t)
  | .infinite s, .infinite t => infinity (s != t)
  | _, _ => ⟨0x7FF8000000000000⟩

/-- The quotient, rounded once. -/
def div (x y : Binary64) : Binary64 :=
  match x.decode, y.decode with
  | .finite s m e, .finite t n f =>
    if n == 0 then
      if m == 0 then ⟨0x7FF8000000000000⟩ else infinity (s != t)
    else
      let shift := e - f
      if 0 ≤ shift then ofRatio (s != t) (m <<< shift.toNat) n
      else ofRatio (s != t) m (n <<< (-shift).toNat)
  | .infinite s, .finite t _ _ => infinity (s != t)
  | .finite s _ _, .infinite t => zero (s != t)
  | _, _ => ⟨0x7FF8000000000000⟩

/-- The nearest integer to a finite double, a half away from zero. -/
def roundHalfAway (x : Binary64) : Option Int :=
  match x.decode with
  | .finite negative m e =>
    let magnitude :=
      if 0 ≤ e then m <<< e.toNat
      else (2 * m + (1 <<< (-e).toNat)) >>> ((-e).toNat + 1)
    some (if negative then -(Int.ofNat magnitude) else Int.ofNat magnitude)
  | _ => none

/-- **A number without a sign rounds to a number without a sign.** -/
theorem roundHalfAway_nonneg {x : Binary64} {m : Nat} {e i : Int}
    (shape : x.decode = .finite false m e) (rounds : x.roundHalfAway = some i) : 0 ≤ i := by
  simp only [roundHalfAway, shape, Bool.false_eq_true, if_false, Option.some.injEq] at rounds
  subst rounds
  exact Int.natCast_nonneg _

end Binary64

end QueryFlow
