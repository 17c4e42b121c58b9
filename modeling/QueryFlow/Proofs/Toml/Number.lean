import QueryFlow.Proofs.Number.Digits
import QueryFlow.Proofs.Toml.Scan
import QueryFlow.Toml.Number

/-!
# Numbers in TOML are read as they were written

A whole number is written by its digits behind its sign, and a line ends behind them. That could
also be the front of a date, of a time, of a floating point number or of a number in another base.
It is none of these, since each of them needs a mark that is neither a digit nor the end of a line.

## How the proof goes

`Ahead` says that digits and then the end of a line are in front, and it is kept by everything that
takes digits: a field of a date takes some of them and leaves the others (`Ahead.of_digitField`). So
however many fields have been taken, what comes next is a digit or the end of the line, and the mark
that has to stand there does not (`Ahead.exactly_eq`). This refutes dates and times in one way,
whatever the number of digits is, and does the same for the marks of other bases, for points and for
exponents.

With these out of the way the digits are read to their end, and the number fits because it was
written.

## Main results

* `Ahead.date_eq` and `float_of_sign`: a number is neither a date nor a floating point number.
* `number_intText`: **a number that fits is read as it was written**, and as nothing else.
-/

namespace QueryFlow.Toml

open Scan Decimal

/-! ### What a number is not -/

/-- Digits stand in front of a text, if any, and the end of a line behind them. -/
def Ahead (cs : List Char) : Prop :=
  ∃ digits rest, (∀ c ∈ digits, c.isDigit = true) ∧ cs = digits ++ '\n' :: rest

namespace Ahead

variable {cs left : List Char}

/-- Something other than a mark is in front. -/
theorem exists_ne (ahead : Ahead cs) {mark : Char} (other : mark.isDigit = false ∧ mark ≠ '\n') :
    ∃ c rest, cs = c :: rest ∧ c ≠ mark := by
  obtain ⟨digits, rest, all, rfl⟩ := ahead
  cases digits with
  | nil => exact ⟨'\n', rest, rfl, other.2.symm⟩
  | cons c digits =>
      refine ⟨c, digits ++ '\n' :: rest, rfl, ?_⟩
      rintro rfl
      rw [all c List.mem_cons_self] at other
      exact absurd other.1 (by decide)

/-- A mark that has to be there is not. -/
theorem exactly_eq (ahead : Ahead cs) {mark : Char} (other : mark.isDigit = false ∧ mark ≠ '\n') :
    exactly mark cs = none := by
  obtain ⟨c, rest, rfl, different⟩ := ahead.exists_ne other
  exact exactly_of_ne different

/-- A mark that may be there is not, and nothing is taken. -/
theorem accept_eq (ahead : Ahead cs) {mark : Char} (other : mark.isDigit = false ∧ mark ≠ '\n') :
    accept mark cs = some (false, cs) := by
  obtain ⟨c, rest, rfl, different⟩ := ahead.exists_ne other
  exact accept_of_ne different

/-- Several marks that have to be there are not, as the first one is not. -/
theorem phrase_eq (ahead : Ahead cs) {mark : Char} (other : mark.isDigit = false ∧ mark ≠ '\n')
    (marks : List Char) : phrase (mark :: marks) cs = none := by
  obtain ⟨c, rest, rfl, different⟩ := ahead.exists_ne other
  simp [phrase, different.symm]

/-- There is no sign in front of digits. -/
theorem sign_eq (ahead : Ahead cs) : sign cs = some (false, cs) := by
  have minus : accept '-' cs = some (false, cs) := ahead.accept_eq (by decide)
  have plus : accept '+' cs = some (false, cs) := ahead.accept_eq (by decide)
  simp [sign, bind_apply, minus, plus]

/-- Digits may be taken for a field of a date, but a line still ends behind those that are left. -/
theorem of_digitField (ahead : Ahead cs) {count n : Nat}
    (found : digitField count cs = some (n, left)) : Ahead left := by
  obtain ⟨digits, rest, all, rfl⟩ := ahead
  unfold digitField at found
  dsimp only at found
  split at found
  · next enough =>
    simp only [Option.some.injEq, Prod.mk.injEq] at found
    obtain ⟨-, rfl⟩ := found
    simp only [Bool.and_eq_true, decide_eq_true_eq, List.all_eq_true] at enough
    obtain ⟨length, numeric⟩ := enough
    -- the end of the line is no digit
    have inside : count ≤ digits.length := by
      by_contra past
      have member : '\n' ∈ (digits ++ '\n' :: rest).take count := by
        rw [List.take_append, List.mem_append]
        right
        rw [show count - digits.length = (count - digits.length - 1) + 1 by omega]
        exact List.mem_cons_self
      exact absurd (numeric _ member) (by decide)
    refine ⟨digits.drop count, rest, fun c member => all c (List.mem_of_mem_drop member), ?_⟩
    rw [List.drop_append_of_le_length inside]
  · cases found

/-- A field of a date is followed by a mark, and there is none. -/
theorem field_bind_eq (ahead : Ahead cs) {mark : Char}
    (other : mark.isDigit = false ∧ mark ≠ '\n') {α : Type} (count : Nat) (more : Nat → Scan α) :
    (do let n ← digitField count; exactly mark; more n) cs = none := by
  cases found : digitField count cs with
  | none => simp [bind_apply, found]
  | some read =>
      have none := (ahead.of_digitField found).exactly_eq other
      simp [bind_apply, found, none]

/-- **A number is no date**, and no time of day: the mark behind the first field is missing. -/
theorem date_eq (ahead : Ahead cs) : date cs = none := by
  have noDay : day cs = none := ahead.field_bind_eq (by decide) 4 _
  have noTime : timeOfDay cs = none := by
    have first : hourAndMinute cs = none := ahead.field_bind_eq (by decide) 2 _
    simp [timeOfDay, bind_apply, first]
  simp [date, orElse_apply, bind_apply, noDay, noTime]

end Ahead

/-- A date does not start with a minus. -/
theorem date_minus (cs : List Char) : date ('-' :: cs) = none := by
  have field (count : Nat) : digitField (count + 1) ('-' :: cs) = none := by
    simp [digitField]
  have noDay : day ('-' :: cs) = none := by
    simp only [day, bind_apply, field 3, Option.bind_none]
  have noTime : timeOfDay ('-' :: cs) = none := by
    simp only [timeOfDay, hourAndMinute, bind_apply, field 1, Option.bind_none]
  simp [date, orElse_apply, bind_apply, noDay, noTime]

/-! ### What a number is -/

section Number

variable {n : Nat} {cs rest : List Char}

/-- The digits of a number with the end of a line behind them. -/
theorem ahead_natDigits (n : Nat) (rest : List Char) : Ahead (natDigits n ++ '\n' :: rest) :=
  ⟨natDigits n, rest, fun _ => isDigit_of_mem_natDigits, rfl⟩

/-- The digits of a number are those of a whole number. -/
theorem wholeDigits_natDigits (n : Nat) (rest : List Char) :
    wholeDigits (natDigits n ++ '\n' :: rest) = some (natDigits n, '\n' :: rest) := by
  have run : digitRun Char.isDigit (natDigits n ++ '\n' :: rest)
      = some (natDigits n, '\n' :: rest) :=
    digitRun_of_digits (natDigits_ne_nil n) (fun _ => isDigit_of_mem_natDigits)
      (by rintro c ⟨⟩; decide)
  by_cases zero : (natDigits n).head? = some '0'
  · rw [eq_of_head_natDigits zero]
    rfl
  · have front : peek (natDigits n ++ '\n' :: rest)
        = some ((natDigits n).head?, natDigits n ++ '\n' :: rest) := by
      simp [peek, List.head?_append_of_ne_nil _ (natDigits_ne_nil n)]
    simp only [wholeDigits, bind_apply, front, Option.bind_some]
    exact run

variable {negative : Bool} (signed : sign cs = some (negative, natDigits n ++ '\n' :: rest))

include signed

/-- **A number is no floating point number**, since it has neither a fraction nor an exponent. -/
theorem float_of_sign : float cs = none := by
  have ahead := ahead_natDigits n rest
  have whole := wholeDigits_natDigits n rest
  have noFraction : attempt fraction ('\n' :: rest) = some (none, '\n' :: rest) := by
    simp [attempt, fraction, bind_apply, exactly]
  have noExponent : attempt exponent ('\n' :: rest) = some (none, '\n' :: rest) := by
    simp [attempt, exponent, bind_apply]
  have notPointed : pointedFloat cs = none := by
    simp [pointedFloat, bind_apply, signed, whole, noFraction, noExponent]
  have notInfinite : phrase ['i', 'n', 'f'] (natDigits n ++ '\n' :: rest) = none :=
    ahead.phrase_eq (by decide) _
  have notMissing : phrase ['n', 'a', 'n'] (natDigits n ++ '\n' :: rest) = none :=
    ahead.phrase_eq (by decide) _
  simp [float, orElse_apply, bind_apply, notPointed, signed, notInfinite, notMissing]

/-- A number that fits is read with its sign. -/
theorem decimalInteger_of_sign (inside : fits (if negative then -(n : Int) else n) = true) :
    decimalInteger cs = some (if negative then -(n : Int) else n, '\n' :: rest) := by
  have digits := wholeDigits_natDigits n rest
  simp [decimalInteger, bind_apply, signed, digits, digitsValue_natDigits, whole, inside]

omit signed

/-- A number does not have the mark of another base. -/
theorem marked_natDigits {mark : Char} (other : mark.isDigit = false ∧ mark ≠ '\n') (base : Nat) :
    marked mark base (natDigits n ++ '\n' :: rest) = none := by
  have unmarked : phrase ['0', mark] (natDigits n ++ '\n' :: rest) = none := by
    by_cases zero : (natDigits n).head? = some '0'
    · rw [eq_of_head_natDigits zero]
      simp [phrase, other.2]
    · obtain ⟨c, digits, written⟩ := List.exists_cons_of_ne_nil (natDigits_ne_nil n)
      rw [written] at zero ⊢
      have different : '0' ≠ c := fun same => zero (by rw [same]; rfl)
      simp [phrase, different]
  simp [marked, bind_apply, unmarked]

end Number

/-- **A whole number that fits is read as it was written**, and as nothing else. -/
theorem number_intText {i : Int} (inside : fits i = true) (rest : List Char) :
    date ((intText i).toList ++ '\n' :: rest) = none
      ∧ float ((intText i).toList ++ '\n' :: rest) = none
      ∧ integer ((intText i).toList ++ '\n' :: rest) = some (i, '\n' :: rest) := by
  rcases Int.lt_or_le i 0 with below | above
  · have text : (intText i).toList ++ '\n' :: rest
        = '-' :: (natDigits i.natAbs ++ '\n' :: rest) := by
      simp [intText, below]
    have signed : sign ('-' :: (natDigits i.natAbs ++ '\n' :: rest))
        = some (true, natDigits i.natAbs ++ '\n' :: rest) := by
      simp [sign, bind_apply]
    have value : (if true then -(i.natAbs : Int) else i.natAbs) = i := by
      rw [if_pos rfl]
      omega
    have marks (mark : Char) (base : Nat) :
        marked mark base ('-' :: (natDigits i.natAbs ++ '\n' :: rest)) = none := by
      simp [marked, bind_apply, phrase]
    have decimal := decimalInteger_of_sign signed (by rwa [value])
    rw [value] at decimal
    rw [text]
    exact ⟨date_minus _, float_of_sign signed, by simp [integer, orElse_apply, marks, decimal]⟩
  · have text : (intText i).toList ++ '\n' :: rest = natDigits i.natAbs ++ '\n' :: rest := by
      simp [intText, Int.not_lt.2 above]
    have ahead := ahead_natDigits i.natAbs rest
    have value : (if false then -(i.natAbs : Int) else i.natAbs) = i := by
      rw [if_neg Bool.false_ne_true]
      omega
    have decimal := decimalInteger_of_sign ahead.sign_eq (by rwa [value])
    rw [value] at decimal
    rw [text]
    exact ⟨ahead.date_eq, float_of_sign ahead.sign_eq,
      by simp [integer, orElse_apply, marked_natDigits, decimal]⟩

end QueryFlow.Toml
