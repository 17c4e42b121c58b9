import QueryFlow.Json.Document
import QueryFlow.Json.Scan
import QueryFlow.Proofs.Number.Digits

/-!
# JSON is read as it was written

A text may be written in many ways: a character stands for itself, or is written as one of the
letters behind a backslash, or as a code of four digits, or as two of them. However a text is
written, it is read back. A whole number is written in one way only, by its digits behind its sign,
and is read back if what follows it does not go on with it.

## How the proof goes

`Spells` relates what is written to what is meant, character by character: one constructor for each
way to write a character. The reader of strings recurses in the same way, so that every spelling is
read is an induction on the relation, with a lemma on escapes for each constructor. The fuel of the
reader is a number of characters, and no way to write a character takes fewer than one.

The relation allows the reader's whole range, also spellings that no writer uses.
`spells_escapedChar` places the writer in it: what it writes for a character is one of the ways, by
cases on the character.

For numbers the reader is followed along the digits, whose value grows. As long as the value of all
of them fits into 64 bits, that of any first part does as well (`le_foldl_digits`), so no digit is
only counted.

## Main results

* `string_of_spells`: **however a text is written, it is read back**.
* `spells_escapedChar`: one way to write it.
* `number_natDigits` and `number_minus`: a number of 64 bits is read back.
-/

namespace QueryFlow.Json

open Decimal

variable {c : Char} {cs written text rest : List Char}

/-! ### White space -/

/-- White space in front is passed over. -/
theorem skipGap_append {gap : List Char} (blank : ∀ c ∈ gap, isGap c = true) (cs : List Char) :
    skipGap (gap ++ cs) = skipGap cs :=
  List.dropWhile_append_of_pos blank

/-- White space is one of four characters. -/
theorem eq_of_isGap (white : isGap c = true) : c = ' ' ∨ c = '\t' ∨ c = '\n' ∨ c = '\r' := by
  simpa [isGap, or_assoc] using white

/-- A digit is no white space. -/
theorem isGap_of_isDigit (numeric : c.isDigit = true) : isGap c = false := by
  rw [Bool.eq_false_iff]
  intro white
  rcases eq_of_isGap white with rfl | rfl | rfl | rfl <;> exact absurd numeric (by decide)

/-- Nothing is passed over in front of another character. -/
theorem skipGap_of_head (other : isGap c = false) : skipGap (c :: cs) = c :: cs := by
  simp [skipGap, other]

/-! ### Texts -/

/-- Four digits in base sixteen, and their value. -/
def FourDigits (n : Nat) (digits : List Char) : Prop :=
  ∃ a b c d w x y z, digits = [a, b, c, d] ∧ hexValue? a = some w ∧ hexValue? b = some x
    ∧ hexValue? c = some y ∧ hexValue? d = some z ∧ n = ((w * 16 + x) * 16 + y) * 16 + z

/-- The ways to write a text between two quotes: one constructor for each way to write a character.
-/
inductive Spells : (written text : List Char) → Prop
  /-- The empty text. -/
  | nil : Spells [] []
  /-- A character that stands for itself. -/
  | plain {c : Char} {written text : List Char} (quote : c ≠ '"') (slash : c ≠ '\\')
      (visible : 32 ≤ c.toNat) (more : Spells written text) :
      Spells (c :: written) (c :: text)
  /-- A letter behind a backslash. -/
  | short {letter c : Char} {written text : List Char} (meant : shortEscape? letter = some c)
      (more : Spells written text) : Spells ('\\' :: letter :: written) (c :: text)
  /-- The code of a character. -/
  | code {n : Nat} {digits written text : List Char} (four : FourDigits n digits)
      (single : n < 0xD800 ∨ 0xDFFF < n) (more : Spells written text) :
      Spells ('\\' :: 'u' :: (digits ++ written)) (Char.ofNat n :: text)
  /-- The two codes of a character outside the basic plane. -/
  | pair {m n : Nat} {high low written text : List Char} (first : FourDigits m high)
      (second : FourDigits n low) (leading : 0xD800 ≤ m ∧ m ≤ 0xDBFF)
      (trailing : 0xDC00 ≤ n ∧ n ≤ 0xDFFF) (more : Spells written text) :
      Spells ('\\' :: 'u' :: (high ++ '\\' :: 'u' :: (low ++ written)))
        (Char.ofNat ((m - 0xD800) * 0x400 + (n - 0xDC00) + 0x10000) :: text)

/-- Four digits are read as their value, whatever stands behind them. -/
theorem hexEscape_append {n : Nat} {digits : List Char} (four : FourDigits n digits)
    (rest : List Char) : hexEscape (digits ++ rest) = .ok (n, rest) := by
  obtain ⟨a, b, c, d, w, x, y, z, rfl, first, second, third, fourth, rfl⟩ := four
  simp [hexEscape, first, second, third, fourth]

/-- A letter that can be escaped does not start a code. -/
theorem ne_of_shortEscape? {letter : Char} (meant : shortEscape? letter = some c) :
    letter ≠ 'u' := by
  rintro rfl
  exact absurd meant (by simp [shortEscape?])

/-- A letter behind a backslash is read as what it means. -/
theorem escape_of_short {letter : Char} (meant : shortEscape? letter = some c)
    (rest : List Char) : escape (letter :: rest) = .ok (c, rest) := by
  unfold escape
  split
  · next none => cases none
  · next same =>
    obtain ⟨rfl, -⟩ := List.cons.inj same
    exact absurd rfl (ne_of_shortEscape? meant)
  · next same =>
    obtain ⟨rfl, rfl⟩ := List.cons.inj same
    rw [meant]

/-- A code that is no surrogate is read as its character. -/
theorem escape_of_code {n : Nat} {digits : List Char} (four : FourDigits n digits)
    (single : n < 0xD800 ∨ 0xDFFF < n) (rest : List Char) :
    escape ('u' :: (digits ++ rest)) = .ok (Char.ofNat n, rest) := by
  have read := hexEscape_append four rest
  have notTrailing : ¬ (0xDC00 ≤ n ∧ n ≤ 0xDFFF) := by omega
  have notLeading : n < 0xD800 ∨ 0xDBFF < n := by omega
  simp [escape, unicodeEscape, read, bind, Except.bind, notTrailing, notLeading]

/-- Two codes that are surrogates of each other are read as one character. -/
theorem escape_of_pair {m n : Nat} {high low : List Char} (first : FourDigits m high)
    (second : FourDigits n low) (leading : 0xD800 ≤ m ∧ m ≤ 0xDBFF)
    (trailing : 0xDC00 ≤ n ∧ n ≤ 0xDFFF) (rest : List Char) :
    escape ('u' :: (high ++ '\\' :: 'u' :: (low ++ rest)))
      = .ok (Char.ofNat ((m - 0xD800) * 0x400 + (n - 0xDC00) + 0x10000), rest) := by
  have read := hexEscape_append first ('\\' :: 'u' :: (low ++ rest))
  have more := hexEscape_append second rest
  have notTrailing : ¬ (0xDC00 ≤ m ∧ m ≤ 0xDFFF) := by omega
  have notSingle : ¬ (m < 0xD800 ∨ 0xDBFF < m) := by omega
  have isTrailing : ¬ (n < 0xDC00 ∨ 0xDFFF < n) := by omega
  simp [escape, unicodeEscape, read, more, bind, Except.bind, notTrailing, notSingle, isTrailing]

/-- An escape stands for the first character. -/
theorem stringChars_of_escape {fuel : Nat} {behind : List Char}
    (read : escape cs = .ok (c, behind)) (more : stringChars fuel behind = .ok (text, rest)) :
    stringChars (fuel + 1) ('\\' :: cs) = .ok (c :: text, rest) := by
  simp [stringChars, read, more]

/-- The characters between two quotes are read one by one, however they are written. By induction on
the way in which they are. -/
theorem stringChars_of_spells (spells : Spells written text) (rest : List Char) {fuel : Nat}
    (enough : written.length < fuel) :
    stringChars fuel (written ++ '"' :: rest) = .ok (text, rest) := by
  obtain ⟨fuel, rfl⟩ := Nat.exists_eq_add_one_of_ne_zero (Nat.ne_zero_of_lt enough)
  induction spells generalizing fuel with
  | nil => simp [stringChars]
  | plain quote slash visible _ ih =>
      obtain ⟨fuel, rfl⟩ := Nat.exists_eq_add_one_of_ne_zero
        (Nat.ne_zero_of_lt (Nat.lt_of_succ_lt_succ enough))
      have more := ih fuel (Nat.lt_of_succ_lt_succ enough)
      rw [List.cons_append, stringChars]
      simp [quote, slash, Nat.not_lt.2 visible, more]
  | short meant _ ih =>
      simp only [List.length_cons] at enough
      obtain ⟨fuel, rfl⟩ := Nat.exists_eq_add_one_of_ne_zero (n := fuel) (by omega)
      exact stringChars_of_escape (escape_of_short meant _) (ih fuel (by omega))
  | code four single _ ih =>
      simp only [List.length_cons, List.length_append] at enough
      obtain ⟨fuel, rfl⟩ := Nat.exists_eq_add_one_of_ne_zero (n := fuel) (by omega)
      rw [List.cons_append, List.cons_append, List.append_assoc]
      exact stringChars_of_escape (escape_of_code four single _) (ih fuel (by omega))
  | pair first second leading trailing _ ih =>
      simp only [List.length_cons, List.length_append] at enough
      obtain ⟨fuel, rfl⟩ := Nat.exists_eq_add_one_of_ne_zero (n := fuel) (by omega)
      simp only [List.cons_append, List.append_assoc]
      exact stringChars_of_escape (escape_of_pair first second leading trailing _)
        (ih fuel (by omega))

/-- **However a text is written, it is read back**, up to the quote that closes it. -/
theorem string_of_spells {s : String} (spells : Spells written s.toList) (rest : List Char) :
    string (written ++ '"' :: rest) = .ok (s, rest) := by
  have enough : written.length < (written ++ '"' :: rest).length + 1 := by
    rw [List.length_append]
    omega
  have read := stringChars_of_spells spells rest enough
  simp only [string, read, String.ofList_toList]

/-- What holds of no control character holds of characters that can be seen. -/
theorem visible_of {p : Char → Prop} (none : ∀ n < 32, ¬ p (Char.ofNat n)) (holds : p c) :
    32 ≤ c.toNat := by
  by_contra low
  exact none c.toNat (Nat.not_le.1 low) (by rwa [Char.ofNat_toNat])

/-- **No control character is written in a text**, whatever is meant by it. By induction on the way
in which it is written. -/
theorem visible_of_spells (spells : Spells written text) : ∀ c ∈ written, 32 ≤ c.toNat := by
  have digit {c : Char} {n : Nat} (value : hexValue? c = some n) : 32 ≤ c.toNat :=
    visible_of (p := fun c => (hexValue? c).isSome = true) (by decide)
      (Option.isSome_of_eq_some value)
  have digits {n : Nat} {digits : List Char} (four : FourDigits n digits) :
      ∀ c ∈ digits, 32 ≤ c.toNat := by
    obtain ⟨a, b, c, d, w, x, y, z, rfl, first, second, third, fourth, -⟩ := four
    simp only [List.forall_mem_cons, List.not_mem_nil, false_imp_iff, implies_true, and_true]
    exact ⟨digit first, digit second, digit third, digit fourth⟩
  have slash : 32 ≤ '\\'.toNat := by decide
  have mark : 32 ≤ 'u'.toNat := by decide
  induction spells with
  | nil => simp
  | plain _ _ visible _ ih => exact List.forall_mem_cons.2 ⟨visible, ih⟩
  | short meant _ ih =>
      have letter := visible_of (p := fun c => (shortEscape? c).isSome = true) (by decide)
        (Option.isSome_of_eq_some meant)
      exact List.forall_mem_cons.2 ⟨slash, List.forall_mem_cons.2 ⟨letter, ih⟩⟩
  | code four _ _ ih =>
      simp only [List.forall_mem_cons, List.forall_mem_append]
      exact ⟨slash, mark, digits four, ih⟩
  | pair first second _ _ _ ih =>
      simp only [List.forall_mem_cons, List.forall_mem_append]
      exact ⟨slash, mark, digits first, slash, mark, digits second, ih⟩

/-! ### One way to write a text -/

/-- A digit in base sixteen has the value that it was written for. -/
theorem hexValue?_hexDigit {n : Nat} (small : n < 16) : hexValue? (hexDigit n) = some n := by
  have all : ∀ n < 16, hexValue? (hexDigit n) = some n := by decide +kernel
  exact all n small

/-- A control character without a letter of its own is written by its code. -/
theorem fourDigits_of_lt (low : c.toNat < 32) :
    FourDigits c.toNat ['0', '0', hexDigit (c.toNat / 16), hexDigit (c.toNat % 16)] :=
  ⟨_, _, _, _, 0, 0, c.toNat / 16, c.toNat % 16, rfl, rfl, rfl, hexValue?_hexDigit (by omega),
    hexValue?_hexDigit (by omega), by omega⟩

/-- A character is written in one of the three ways. By cases on the character, as the writer
distinguishes them. -/
theorem spells_escapedChar_append (c : Char) (more : Spells written text) :
    Spells (escapedChar c ++ written) (c :: text) := by
  have short {letter : Char} (meant : shortEscape? letter = some c) :
      Spells (['\\', letter] ++ written) (c :: text) := .short meant more
  have control {n : Nat} {letter : Char} (code : c.toNat = n)
      (meant : shortEscape? letter = some (Char.ofNat n)) :
      Spells (['\\', letter] ++ written) (c :: text) := by
    refine short ?_
    rw [meant, ← code, Char.ofNat_toNat]
  unfold escapedChar
  split_ifs with quote slash low backspace tab line page ret
  · exact short (by rw [quote]; rfl)
  · exact short (by rw [slash]; rfl)
  · exact control backspace rfl
  · exact control tab rfl
  · exact control line rfl
  · exact control page rfl
  · exact control ret rfl
  · have coded := Spells.code (fourDigits_of_lt low) (.inl (by omega)) more
    rwa [Char.ofNat_toNat] at coded
  · exact .plain quote slash (Nat.not_lt.1 low) more

/-- **A text is written by writing its characters.** -/
theorem spells_escapedChar (text : List Char) : Spells (text.flatMap escapedChar) text := by
  induction text with
  | nil => exact .nil
  | cons c text ih => exact spells_escapedChar_append c ih

/-! ### Whole numbers -/

/-- What follows does not go on with a number. -/
def Ends (rest : List Char) : Prop :=
  ∀ c ∈ rest.head?, c.isDigit = false ∧ c ≠ '.' ∧ c ≠ 'e' ∧ c ≠ 'E'

/-- What follows does not go on with a number if its first character does not. -/
theorem ends_cons (other : c.isDigit = false ∧ c ≠ '.' ∧ c ≠ 'e' ∧ c ≠ 'E') : Ends (c :: cs) := by
  rintro d ⟨⟩
  exact other

/-- A number that does not go on is whole. -/
theorem afterWhole_of_ends (ends : Ends rest) (positive : Bool) (n : Nat) :
    afterWhole positive n rest
      = if positive then .ok (.natural n, rest)
        else if n == 0 || 9223372036854775808 < n then
          .ok (.float (signed false (Binary64.ofRatio false n 1)), rest)
        else .ok (.negative n, rest) := by
  unfold afterWhole
  split
  · exact absurd rfl (ends _ rfl).2.1
  · exact absurd rfl (ends _ rfl).2.2.1
  · exact absurd rfl (ends _ rfl).2.2.2
  · rfl

/-- Further digits only make a number larger. -/
theorem le_foldl_digits (digits : List Char) (n : Nat) :
    n ≤ digits.foldl (fun n c => n * 10 + (c.toNat - 48)) n := by
  induction digits generalizing n with
  | nil => exact Nat.le_refl n
  | cons c digits ih =>
      rw [List.foldl_cons]
      have := ih (n * 10 + (c.toNat - 48))
      omega

/-- Digits are read to their end as long as 64 bits hold what they stand for. By induction on the
digits, whose value only grows. -/
theorem wholeDigits_append {digits : List Char} (numeric : ∀ c ∈ digits, c.isDigit = true)
    (ends : Ends rest) (positive : Bool) {n : Nat}
    (fits : digits.foldl (fun n c => n * 10 + (c.toNat - 48)) n < wordLimit) :
    wholeDigits positive n (digits ++ rest)
      = afterWhole positive (digits.foldl (fun n c => n * 10 + (c.toNat - 48)) n) rest := by
  induction digits generalizing n with
  | nil =>
      cases rest with
      | nil => rfl
      | cons c rest => simp [wholeDigits, (ends c rfl).1]
  | cons c digits ih =>
      have inside : ¬ wordLimit ≤ n * 10 + (c.toNat - 48) :=
        Nat.not_le.2 (Nat.lt_of_le_of_lt (le_foldl_digits digits _) fits)
      have more := ih (fun c member => numeric c (List.mem_cons_of_mem _ member)) fits
      simp [wholeDigits, numeric c List.mem_cons_self, inside, more]

/-- The digits of a number that 64 bits hold are read to their end. A zero stands alone, and any
other number starts with another digit. -/
theorem unsigned_natDigits {n : Nat} (fits : n < wordLimit) (ends : Ends rest) (positive : Bool) :
    unsigned positive (natDigits n ++ rest) = afterWhole positive n rest := by
  have value := digitsValue_natDigits n
  by_cases zero : (natDigits n).head? = some '0'
  · have single := eq_of_head_natDigits zero
    have none : digit? rest = none := by
      cases rest with
      | nil => rfl
      | cons c rest => simp [digit?, (ends c rfl).1]
    rw [single] at value ⊢
    obtain rfl : 0 = n := value
    simp [unsigned, none]
  · obtain ⟨c, digits, written, numeric⟩ := exists_natDigits_cons n
    have front : c ≠ '0' := by
      rintro rfl
      exact zero (by rw [written]; rfl)
    rw [written, digitsValue, List.foldl_cons, Nat.zero_mul, Nat.zero_add] at value
    have more := wholeDigits_append (fun d member => numeric d (List.mem_cons_of_mem _ member))
      ends positive (n := c.toNat - 48) (value.symm ▸ fits)
    rw [value] at more
    rw [written]
    simp [unsigned, numeric c List.mem_cons_self, more]

/-- **A number of 64 bits is read back.** -/
theorem number_natDigits {n : Nat} (fits : n < wordLimit) (ends : Ends rest) :
    number (natDigits n ++ rest) = .ok (.natural n, rest) := by
  have unsigned := unsigned_natDigits fits ends true
  rw [afterWhole_of_ends ends, if_pos rfl] at unsigned
  unfold number
  split
  · next same =>
    -- a digit is no minus
    obtain ⟨c, digits, written, numeric⟩ := exists_natDigits_cons n
    rw [written] at same
    obtain ⟨rfl, -⟩ := List.cons.inj same
    exact absurd (numeric _ List.mem_cons_self) (by decide)
  · exact unsigned

/-- **A negative number of 64 bits is read back.** -/
theorem number_minus {n : Nat} (positive : 0 < n) (fits : n ≤ 9223372036854775808)
    (ends : Ends rest) : number ('-' :: (natDigits n ++ rest)) = .ok (.negative n, rest) := by
  have inside : n < wordLimit := Nat.lt_of_le_of_lt fits (by decide)
  have held : ¬ (n == 0 || decide (9223372036854775808 < n)) = true := by
    simp only [Bool.or_eq_true, beq_iff_eq, decide_eq_true_eq]
    omega
  have unsigned := unsigned_natDigits inside ends false
  rw [afterWhole_of_ends ends, if_neg Bool.false_ne_true, if_neg held] at unsigned
  exact unsigned

end QueryFlow.Json
