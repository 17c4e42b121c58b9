import Mathlib.Data.List.Basic
import QueryFlow.Text.Blank
import QueryFlow.Text.Letter

/-!
# Blanks around and between words

Trimming takes blanks from the ends of a text only, so it stops at every character that is not
blank. That is said by splitting a text: it is some blanks and what trimming leaves, and of a text
with a character that is not blank everything up to that character is left.

No word has a blank in it. White space is written out as a few ranges and the characters of words
are two long tables; that these have nothing in common with the blank ranges is checked range by
range (`areApart`), by evaluating a comparison of numbers for any two ranges of different kinds.

## Main results

* `exists_trimStart_append` and `exists_trimEnd_append`: trimming takes away blanks.
* `trimEnd_append_cons`: trimming at the end stops at a character that is not blank.
* `isWord_of_isBlank`: a blank character belongs to no word.
-/

namespace QueryFlow.Text

/-! ### The ends of a text -/

/-- Trimming at the start stops at a character that is not blank. -/
theorem trimStart_append {blanks rest : List Char} (blank : blanks.all isBlank = true)
    (solid : ∀ c ∈ rest.head?, isBlank c = false) : trimStart (blanks ++ rest) = rest := by
  rw [trimStart, List.dropWhile_append_of_pos (List.all_eq_true.1 blank)]
  exact (trimStart_eq_self_iff rest).2 solid

/-- **Trimming at the start takes away blanks.** -/
theorem exists_trimStart_append (cs : List Char) :
    ∃ blanks, cs = blanks ++ trimStart cs ∧ blanks.all isBlank = true :=
  ⟨cs.takeWhile isBlank, (List.takeWhile_append_dropWhile ..).symm, List.all_takeWhile⟩

/-- **Trimming at the end takes away blanks.** -/
theorem exists_trimEnd_append (cs : List Char) :
    ∃ blanks, cs = trimEnd cs ++ blanks ∧ blanks.all isBlank = true := by
  refine ⟨(cs.reverse.takeWhile isBlank).reverse, ?_, ?_⟩
  · rw [trimEnd, ← List.reverse_append, List.takeWhile_append_dropWhile, List.reverse_reverse]
  · rw [List.all_reverse]
    exact List.all_takeWhile

/-- **Trimming at the end stops at a character that is not blank.** -/
theorem trimEnd_append_cons {xs ys : List Char} {c : Char} (solid : isBlank c = false) :
    trimEnd (xs ++ c :: ys) = xs ++ c :: trimEnd ys := by
  have kept : (ys.reverse ++ c :: xs.reverse).dropWhile isBlank
      = ys.reverse.dropWhile isBlank ++ c :: xs.reverse := by
    rw [List.dropWhile_append]
    split
    · next none => rw [List.isEmpty_iff.1 none, List.dropWhile_cons_of_neg (by simp [solid])]; rfl
    · rfl
  simp [trimEnd, kept]

/-- White space has no case. -/
theorem toLower_of_isBlank {c : Char} (blank : isBlank c = true) : c.toLower = c := by
  have letter : ¬ (c.val ≥ 'A'.val ∧ c.val ≤ 'Z'.val) := by
    rintro ⟨low, high⟩
    have low : 65 ≤ c.toNat := low
    have high : c.toNat ≤ 90 := high
    simp only [isBlank, Bool.or_eq_true, Bool.and_eq_true, beq_iff_eq, decide_eq_true_eq] at blank
    omega
  exact dif_neg letter

/-! ### Words -/

/-- The blank characters from `U+0080` on, as ranges of code points, to be compared with the tables
of letters and marks. -/
def blankRanges : List (Nat × Nat) :=
  [(0x85, 0x85), (0xA0, 0xA0), (0x1680, 0x1680), (0x2000, 0x200A), (0x2028, 0x2029),
    (0x202F, 0x202F), (0x205F, 0x205F), (0x3000, 0x3000)]

/-- No range of a table has a character of the other ranges. -/
def areApart (ranges others : List (Nat × Nat)) : Bool :=
  ranges.all fun range => others.all fun other =>
    Nat.blt range.2 other.1 || Nat.blt other.2 range.1

theorem inRanges_of_areApart {table : Array (Nat × Nat)} {others : List (Nat × Nat)} {c : Char}
    (apart : areApart table.toList others = true) {other : Nat × Nat} (listed : other ∈ others)
    (inside : other.1 ≤ c.toNat ∧ c.toNat ≤ other.2) : inRanges table c = false := by
  rw [inRanges, Array.any_eq_false']
  intro range member
  simp only [areApart, List.all_eq_true, Bool.or_eq_true, Nat.blt_eq] at apart
  have := apart range (Array.mem_toList_iff.2 member) other listed
  simp only [Bool.and_eq_true, decide_eq_true_eq]
  omega

/-- **A blank character belongs to no word.** -/
theorem isWord_of_isBlank {c : Char} (blank : isBlank c = true) : isWord c = false := by
  simp only [isBlank, Bool.or_eq_true, Bool.and_eq_true, beq_iff_eq, decide_eq_true_eq] at blank
  unfold isWord
  split
  · next ascii =>
    have none : ∀ n < 33, ((Char.ofNat n).isAlphanum || Char.ofNat n == '_') = false := by decide
    rw [← Char.ofNat_toNat c]
    exact none c.toNat (by omega)
  · next large =>
    obtain ⟨other, listed, inside⟩ :
        ∃ other ∈ blankRanges, other.1 ≤ c.toNat ∧ c.toNat ≤ other.2 := by
      simp only [blankRanges, List.mem_cons, List.not_mem_nil, or_false, exists_eq_or_imp,
        exists_eq_left]
      omega
    rw [inRanges_of_areApart (by decide +kernel) listed inside,
      inRanges_of_areApart (by decide +kernel) listed inside]
    rfl

end QueryFlow.Text
