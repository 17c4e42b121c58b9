import QueryFlow.Text.Blank
import QueryFlow.Text.Comment

/-!
# What is removed with the comments

Removing the comments of a text changes it if and only if there is a whole comment in it: an
opening, and a closing behind it that does not overlap the opening. It does not matter where the
comment stands; one in a quoted text is removed as well.

`Commented` says that there is a comment by splitting the text, without the pass that removes it.
Openings and closings are pairs of characters next to each other, each with a condition on what is
behind it: a comment is an opening that has a closing behind it. `Pair` states this once, so that
what one more character in front changes is also shown once.

One direction of the main result is an induction along the pass: a character that is kept stands in
front of what is kept of the rest. In the other one the removal of a comment makes the text shorter,
as removing comments never makes it longer.

Reversing a text turns its comments around, since an opening read backwards is a closing. So a fact
about the start of a text gives the one about its end, as for trimming.

## Main results

* `afterComment_isSome_iff`: a comment ends if there is a closing.
* `stripComments_eq_self_iff`: a text is kept if and only if there is no comment in it.
* `commented_trimChars_iff`: blanks at the ends of a text have nothing to do with its comments.
-/

namespace QueryFlow.Text

/-- There is a comment in a text: an opening, and behind it a closing that does not overlap it.
Where it stands is not asked, nor whether it would be the first. -/
def Commented (cs : List Char) : Prop :=
  ∃ before inside behind, cs = before ++ '/' :: '*' :: (inside ++ '*' :: '/' :: behind)

/-- There is a closing in a text. -/
def Closed (cs : List Char) : Prop := ∃ inside behind, cs = inside ++ '*' :: '/' :: behind

/-- Two characters are next to each other, and what is behind them fulfils a condition. -/
def Pair (a b : Char) (P : List Char → Prop) (cs : List Char) : Prop :=
  ∃ before behind, cs = before ++ a :: b :: behind ∧ P behind

variable {cs : List Char} {c : Char}

theorem pair_cons {a b : Char} {P : List Char → Prop} :
    Pair a b P (c :: cs) ↔ (c = a ∧ ∃ rest, cs = b :: rest ∧ P rest) ∨ Pair a b P cs := by
  constructor
  · rintro ⟨before, behind, same, fulfils⟩
    cases before with
    | nil =>
        obtain ⟨rfl, rfl⟩ := List.cons.inj same
        exact .inl ⟨rfl, behind, rfl, fulfils⟩
    | cons d before => exact .inr ⟨before, behind, (List.cons.inj same).2, fulfils⟩
  · rintro (⟨rfl, rest, rfl, fulfils⟩ | ⟨before, behind, rfl, fulfils⟩)
    · exact ⟨[], rest, rfl, fulfils⟩
    · exact ⟨c :: before, behind, rfl, fulfils⟩

theorem closed_iff_pair : Closed cs ↔ Pair '*' '/' (fun _ => True) cs := by
  simp [Closed, Pair]

theorem commented_iff_pair : Commented cs ↔ Pair '/' '*' Closed cs := by
  constructor
  · rintro ⟨before, inside, behind, rfl⟩
    exact ⟨before, _, rfl, inside, behind, rfl⟩
  · rintro ⟨before, _, rfl, inside, behind, rfl⟩
    exact ⟨before, inside, behind, rfl⟩

theorem closed_cons : Closed (c :: cs) ↔ (c = '*' ∧ cs.head? = some '/') ∨ Closed cs := by
  rw [closed_iff_pair, pair_cons, ← closed_iff_pair, List.head?_eq_some_iff]
  simp

theorem commented_cons :
    Commented (c :: cs) ↔ (c = '/' ∧ ∃ rest, cs = '*' :: rest ∧ Closed rest) ∨ Commented cs := by
  rw [commented_iff_pair, pair_cons, ← commented_iff_pair]

/-- Where there is a comment, there is a closing. -/
theorem Commented.closed (commented : Commented cs) : Closed cs := by
  obtain ⟨before, inside, behind, rfl⟩ := commented
  exact ⟨before ++ '/' :: '*' :: inside, behind, by simp⟩

/-- **A comment ends if there is a closing.** -/
theorem afterComment_isSome_iff : (afterComment cs).isSome = true ↔ Closed cs := by
  fun_induction afterComment cs with
  | case1 => simp [Closed]
  | case2 rest => simpa using ⟨[], rest, rfl⟩
  | case3 c rest other ih =>
      rw [ih, closed_cons, or_iff_right]
      rintro ⟨rfl, first⟩
      obtain ⟨behind, rfl⟩ := List.head?_eq_some_iff.1 first
      exact other behind rfl rfl

/-- Removing comments makes no text longer. -/
theorem length_stripComments_le (cs : List Char) : (stripComments cs).length ≤ cs.length := by
  fun_induction stripComments cs with
  | case1 => simp
  | case2 rest behind ends _ ih =>
      have := afterComment_length_le ends
      simp only [List.length_cons]
      omega
  | case3 => simp
  | case4 c rest _ ih => simpa using ih

/-- **A text is kept if and only if there is no comment in it.** By the recursion of
`stripComments`: a closed comment makes the text shorter, and one that is never closed is none. -/
theorem stripComments_eq_self_iff : stripComments cs = cs ↔ ¬ Commented cs := by
  fun_induction stripComments cs with
  | case1 => simp [Commented]
  | case2 rest behind ends _ ih =>
      have commented : Commented ('/' :: '*' :: rest) := commented_cons.2 <|
        .inl ⟨rfl, rest, rfl, afterComment_isSome_iff.1 (by simp [ends])⟩
      have shorter : (stripComments behind).length < ('/' :: '*' :: rest).length := by
        have := length_stripComments_le behind
        have := afterComment_length_le ends
        simp only [List.length_cons]
        omega
      exact iff_of_false (fun same => by simp [same] at shorter) (not_not_intro commented)
  | case3 rest ends =>
      have unclosed : ¬ Closed rest := by simp [← afterComment_isSome_iff, ends]
      refine iff_of_true rfl fun commented => unclosed ?_
      rcases commented_cons.1 commented with ⟨-, _, same, closed⟩ | commented
      · exact (List.cons.inj same).2 ▸ closed
      · -- the `*` of the opening opens no comment itself
        have commented : Commented rest := by simpa [commented_cons (c := '*')] using commented
        exact commented.closed
  | case4 c rest other ih =>
      have later : ¬ (c = '/' ∧ ∃ behind, rest = '*' :: behind ∧ Closed behind) :=
        fun ⟨slash, behind, star, _⟩ => other behind slash star
      rw [List.cons.injEq, commented_cons, or_iff_right later, ← ih]
      exact and_iff_right rfl

/-! ### Blanks at the ends -/

/-- A text that is written backwards has its comments backwards. -/
theorem Commented.reverse (commented : Commented cs) : Commented cs.reverse := by
  obtain ⟨before, inside, behind, rfl⟩ := commented
  exact ⟨behind.reverse, inside.reverse, before.reverse, by simp⟩

theorem commented_reverse_iff : Commented cs.reverse ↔ Commented cs :=
  ⟨fun commented => by simpa using commented.reverse, Commented.reverse⟩

theorem commented_dropWhile_iff : Commented (cs.dropWhile isBlank) ↔ Commented cs := by
  induction cs with
  | nil => rfl
  | cons c cs ih =>
      cases blank : isBlank c with
      | false => rw [List.dropWhile_cons_of_neg (by simp [blank])]
      | true =>
          have other : ¬ (c = '/' ∧ ∃ rest, cs = '*' :: rest ∧ Closed rest) := by
            rintro ⟨rfl, -⟩
            cases blank
          rw [List.dropWhile_cons_of_pos blank, ih, commented_cons, or_iff_right other]

/-- **Trimming neither makes nor removes a comment**, as a comment has no blank at either end. -/
theorem commented_trimChars_iff : Commented (trimChars cs) ↔ Commented cs := by
  rw [trimChars, trimEnd, trimStart, commented_reverse_iff, commented_dropWhile_iff,
    commented_reverse_iff, commented_dropWhile_iff]

instance (cs : List Char) : Decidable (Commented cs) :=
  decidable_of_iff (¬ stripComments cs = cs) <|
    (not_congr stripComments_eq_self_iff).trans Classical.not_not

end QueryFlow.Text
