import Mathlib.Data.List.Basic
import QueryFlow.Number.Decimal
import QueryFlow.Text.Blank
import QueryFlow.Text.Letter

/-!
# The digits of numbers

A number is written by its digits in base ten, without zeros in front of them, and behind its sign.
Reading the digits gives the number back. That there is no zero in front, unless the number is zero,
is what lets a reader refuse numbers with leading zeros and still read all that are written.

Digits are characters of ASCII. They are decimal digits in the sense of the character classes, and
they are not white space, so that a number stops and starts where a reader expects it.

## Main results

* `digitsValue_natDigits`: the digits of a number have its value.
* `eq_of_head_natDigits`: they start with a zero only if they are one.
* `intText_eq_toString`: a number is written in the usual way.
* `isDigit_of_ascii`: the digits of a number are digits of a text.
-/

namespace QueryFlow.Decimal

open QueryFlow.Text

/-- **The digits of a number have its value.** -/
theorem digitsValue_natDigits (n : Nat) : digitsValue (natDigits n) = n := by
  have value : Nat.ofDigitChars 10 (natDigits n) 0 = n := Nat.ofDigitChars_ten_toDigits
  rw [Nat.ofDigitChars_eq_foldl] at value
  simp only [Nat.mul_comm 10] at value
  exact value

theorem isDigit_of_mem_natDigits {n : Nat} {c : Char} (member : c ∈ natDigits n) :
    c.isDigit = true :=
  Nat.isDigit_of_mem_toDigits (by decide) (by decide) member

theorem natDigits_ne_nil (n : Nat) : natDigits n ≠ [] := Nat.toDigits_ne_nil

/-- A digit stands in front of the digits of a number. -/
theorem exists_natDigits_cons (n : Nat) :
    ∃ c digits, natDigits n = c :: digits ∧ ∀ d ∈ c :: digits, d.isDigit = true := by
  obtain ⟨c, digits, written⟩ := List.exists_cons_of_ne_nil (natDigits_ne_nil n)
  exact ⟨c, digits, written, fun d member => isDigit_of_mem_natDigits (written ▸ member)⟩

/-- **Digits start with a zero only if they are one.** By strong induction on the number, whose last
digit is taken off. -/
theorem eq_of_head_natDigits {n : Nat} (zero : (natDigits n).head? = some '0') :
    natDigits n = ['0'] := by
  induction n using Nat.strongRecOn with
  | _ n ih =>
      rcases Nat.lt_or_ge n 10 with small | large
      · have single : natDigits n = [n.digitChar] := Nat.toDigits_of_lt_base small
        rw [single] at zero ⊢
        exact congrArg (· :: []) (Option.some.inj zero)
      · have split : natDigits n = natDigits (n / 10) ++ [(n % 10).digitChar] :=
          Nat.toDigits_of_base_le (by decide) large
        have inner : natDigits (n / 10) = ['0'] := by
          refine ih (n / 10) (by omega) ?_
          rwa [split, List.head?_append_of_ne_nil _ (natDigits_ne_nil _)] at zero
        have value := digitsValue_natDigits (n / 10)
        rw [inner] at value
        have : digitsValue ['0'] = 0 := rfl
        omega

/-- **A number is written in the usual way**, by its digits behind its sign. -/
theorem intText_eq_toString (i : Int) : intText i = toString i := by
  cases i with
  | ofNat n =>
      have positive : ¬ Int.ofNat n < 0 := Int.not_lt.2 (Int.natCast_nonneg n)
      rw [intText, if_neg positive, String.empty_append]
      rfl
  | negSucc n =>
      rw [intText, if_pos (Int.negSucc_lt_zero n)]
      rfl

/-- A number that is not negative is written by its digits. -/
theorem toList_intText (n : Nat) : (intText n).toList = natDigits n := by
  rw [intText, if_neg (Int.not_lt.2 (Int.natCast_nonneg n)), String.empty_append,
    String.toList_ofList, Int.natAbs_natCast]

/-! ### Digits of a text -/

theorem toNat_of_isDigit {c : Char} (digit : c.isDigit = true) : 48 ≤ c.toNat ∧ c.toNat ≤ 57 := by
  simpa [Char.isDigit, UInt32.le_iff_toNat_le] using digit

/-- **An ASCII digit is a decimal digit.** -/
theorem isDigit_of_ascii {c : Char} (digit : c.isDigit = true) : Text.isDigit c = true := by
  have := toNat_of_isDigit digit
  rw [Text.isDigit, if_pos (by omega)]
  exact digit

/-- An ASCII digit is not white space. -/
theorem isBlank_of_isDigit {c : Char} (digit : c.isDigit = true) : isBlank c = false := by
  have := toNat_of_isDigit digit
  simp only [isBlank, Bool.or_eq_false_iff, Bool.and_eq_false_iff, decide_eq_false_iff_not,
    beq_eq_false_iff_ne]
  omega

end QueryFlow.Decimal
