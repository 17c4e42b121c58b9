import QueryFlow.Number.Binary64

/-!
# Doubles without a sign

The sign of a double is its topmost bit. Products and quotients of doubles without a sign have none
either, whatever they are rounded to; nor has what is not a number, as long as it comes from such
doubles.

The arithmetic of doubles ends in rounding a fraction, and rounding puts the sign on a magnitude
that is bounded by that of infinity, which leaves the topmost bit alone (`unsigned_of_lt`). So the
sign of a result is the sign that was asked for, and it is enough to look at the cases in which two
operands are taken apart: numbers, infinities, and what is not a number.

The converse is needed once: a number below zero that is divided by a positive one keeps its sign,
even if the quotient is rounded to zero.

## Main results

* `Unsigned.mul` and `Unsigned.div`: products and quotients of doubles without a sign have none.
* `Unsigned.roundHalfAway_nonneg`: a double without a sign rounds to no negative number.
* `not_unsigned_ofInt_div`: a number below zero keeps its sign.
-/

namespace QueryFlow.Binary64

/-- A double has no sign. -/
def Unsigned (x : Binary64) : Prop := x.bits.toNat < 9223372036854775808

instance (x : Binary64) : Decidable x.Unsigned := inferInstanceAs (Decidable (_ < _))

/-- What a double without a sign stands for has no sign. -/
theorem Unsigned.decode {x : Binary64} (unsigned : x.Unsigned) :
    x.decode = .notANumber ∨ x.decode = .infinite false
      ∨ ∃ mantissa exponent, x.decode = .finite false mantissa exponent := by
  have sign : (x.bits.toNat >>> 63 == 1) = false := by
    have : x.bits.toNat >>> 63 = 0 := by
      rw [Nat.shiftRight_eq_div_pow]
      exact Nat.div_eq_of_lt unsigned
    simp [this]
  simp only [Binary64.decode, sign]
  split
  · split
    · exact .inr (.inl rfl)
    · exact .inl rfl
  · split <;> exact .inr (.inr ⟨_, _, rfl⟩)

/-- A magnitude that is below that of infinity leaves the topmost bit alone. -/
theorem unsigned_of_lt {magnitude : Nat} (bounded : magnitude < 2047 <<< 52) :
    (⟨UInt64.ofNat magnitude⟩ : Binary64).Unsigned := by
  have limit : 2047 <<< 52 < 9223372036854775808 := by decide
  exact Nat.lt_of_le_of_lt (Nat.mod_le ..) (Nat.lt_trans bounded limit)

/-- A fraction without a sign is rounded to a double without one. -/
theorem unsigned_ofRatio (num den : Nat) : (ofRatio false num den).Unsigned := by
  simp only [ofRatio, Bool.false_eq_true, if_false, Nat.add_zero]
  -- the fraction is zero, too large, or the magnitude is that of a finite number
  split
  · decide
  · generalize (max _ (-1074 : Int)) = e
    split
    · decide
    · next bounded => exact unsigned_of_lt (Nat.not_le.1 bounded)

/-- A number with an exponent and without a sign is rounded to a double without a sign. -/
theorem unsigned_ofScaled (mantissa : Nat) (exponent : Int) :
    (ofScaled false mantissa exponent).Unsigned := by
  unfold ofScaled
  split <;> exact unsigned_ofRatio ..

/-- A number that is not negative is rounded to a double without a sign. -/
theorem unsigned_ofInt {i : Int} (nonneg : 0 ≤ i) : (ofInt i).Unsigned := by
  have : decide (i < 0) = false := by simpa using nonneg
  rw [ofInt, this]
  exact unsigned_ofRatio ..

/-- **Products of doubles without a sign have none.** -/
theorem Unsigned.mul {x y : Binary64} (hx : x.Unsigned) (hy : y.Unsigned) :
    (x.mul y).Unsigned := by
  unfold Binary64.mul
  rcases hx.decode with shape | shape | ⟨m, e, shape⟩ <;>
    rcases hy.decode with shape' | shape' | ⟨n, f, shape'⟩ <;>
    simp only [shape, shape']
  case inr.inr.inr.inr => exact unsigned_ofScaled ..
  all_goals first
    | decide
    | (split <;> decide)

/-- **Quotients of doubles without a sign have none.** -/
theorem Unsigned.div {x y : Binary64} (hx : x.Unsigned) (hy : y.Unsigned) :
    (x.div y).Unsigned := by
  unfold Binary64.div
  rcases hx.decode with shape | shape | ⟨m, e, shape⟩ <;>
    rcases hy.decode with shape' | shape' | ⟨n, f, shape'⟩ <;>
    simp only [shape, shape']
  case inr.inr.inr.inr =>
    split
    · split <;> decide
    · split <;> exact unsigned_ofRatio ..
  all_goals decide

/-- **A double without a sign rounds to no negative number.** -/
theorem Unsigned.roundHalfAway_nonneg {x : Binary64} (unsigned : x.Unsigned) {i : Int}
    (rounds : x.roundHalfAway = some i) : 0 ≤ i := by
  rcases unsigned.decode with shape | shape | ⟨m, e, shape⟩
  · simp [roundHalfAway, shape] at rounds
  · simp [roundHalfAway, shape] at rounds
  · exact Binary64.roundHalfAway_nonneg shape rounds

/-! ### Doubles with a sign -/

/-- A magnitude that is below that of infinity, with a sign in front, is that of a finite double. -/
theorem decode_of_lt {magnitude : Nat} (bounded : magnitude < 2047 <<< 52) :
    ∃ mantissa exponent,
      (⟨UInt64.ofNat (magnitude + 1 <<< 63)⟩ : Binary64).decode = .finite true mantissa exponent := by
  have top : 2047 <<< 52 = 9218868437227405312 := by decide
  have half : 1 <<< 63 = 9223372036854775808 := by decide
  rw [top] at bounded
  rw [half]
  have bits : (UInt64.ofNat (magnitude + 9223372036854775808)).toNat
      = magnitude + 9223372036854775808 := by
    rw [UInt64.toNat_ofNat']
    omega
  have sign : ((magnitude + 9223372036854775808) >>> 63 == 1) = true := by
    rw [Nat.shiftRight_eq_div_pow, beq_iff_eq]
    omega
  have field : ((magnitude + 9223372036854775808) >>> 52 % 2048 == 2047) = false := by
    rw [Nat.shiftRight_eq_div_pow, beq_eq_false_iff_ne]
    omega
  simp only [Binary64.decode, bits, sign, field, Bool.false_eq_true, if_false]
  split <;> exact ⟨_, _, rfl⟩

/-- A fraction with a sign is rounded to a number with one. -/
theorem decode_ofRatio_true (num den : Nat) :
    (ofRatio true num den).decode = .infinite true
      ∨ ∃ mantissa exponent, (ofRatio true num den).decode = .finite true mantissa exponent := by
  simp only [ofRatio, if_true]
  split
  · exact .inr ⟨_, _, rfl⟩
  · generalize (max _ (-1074 : Int)) = e
    split
    · exact .inl rfl
    · next bounded => exact .inr (decode_of_lt (Nat.not_le.1 bounded))

/-- A double that stands for a number with a sign has one. -/
theorem not_unsigned_ofRatio_true (num den : Nat) : ¬ (ofRatio true num den).Unsigned := by
  intro unsigned
  rcases unsigned.decode with shape | shape | ⟨m, e, shape⟩ <;>
    rcases decode_ofRatio_true num den with shape' | ⟨n, f, shape'⟩ <;>
    simp [shape] at shape'

/-- **A number below zero keeps its sign** when it is divided by a number above zero. -/
theorem not_unsigned_ofInt_div {i : Int} (negative : i < 0) {y : Binary64} {n : Nat} {f : Int}
    (divisor : y.decode = .finite false n f) (positive : n ≠ 0) : ¬ ((ofInt i).div y).Unsigned := by
  have sign : decide (i < 0) = true := by simpa using negative
  have whole : (n == 0) = false := by simpa using positive
  rw [ofInt, sign]
  unfold Binary64.div
  rcases decode_ofRatio_true i.natAbs 1 with shape | ⟨m, e, shape⟩ <;>
    simp only [shape, divisor, whole]
  · decide
  · rw [if_neg Bool.false_ne_true]
    split <;> exact not_unsigned_ofRatio_true _ _

end QueryFlow.Binary64
