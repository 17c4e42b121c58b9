import QueryFlow.Proofs.Text.Comment

/-!
# Comments that are left where others were removed

The comments of a text are removed in one pass from left to right, which does not come back to what
it has passed. What stands on the two sides of a comment is next to each other afterwards: a `/` and
a `*` with a comment between them become an opening, a `*` and a `/` become a closing. So there may
be a comment in what is left of a text, and this comes of nothing else.

* `Bare`, `Skips` — where no comment starts, and what is behind some comments;
* `Meets` — two characters with nothing but comments between them;
* `Splices` — a comment comes about when the others are removed.

## How the pass is followed

`comment_induction` goes over a text as the pass does, character by character and comment by
comment, with two cases that exclude each other: either no comment starts the text and its first
character is kept, or one does and is skipped. All proofs below are by this induction. They show,
for each of the relations above, what it says in either case, and compare that with what the pass
does there.

The first character that is left of a text is the first one behind some comments. Two characters are
next to each other in what is left if the first is kept and the second is the first one left of what
is behind it; this is what `Meets` says of the text itself. A comment in what is left is an opening
with a closing behind it, and putting the two together gives the definition of `Splices`.

## Main results

* `pair_stripComments_iff`: two characters are next to each other in what is left if and only if
  they meet in the text.
* `commented_stripComments_iff`: there is a comment in what is left of a text if and only if the
  text splices one.
-/

namespace QueryFlow.Text

/-- No comment starts a text: it does not start with an opening, or nothing closes the opening. -/
def Bare (cs : List Char) : Prop := ∀ inside, cs = '/' :: '*' :: inside → ¬ Closed inside

/-- The second text is what is behind some comments, perhaps none, at the start of the first. -/
inductive Skips : List Char → List Char → Prop
  | none {cs : List Char} : Skips cs cs
  | comment {inside behind rest : List Char} (ends : afterComment inside = some behind)
      (skips : Skips behind rest) : Skips ('/' :: '*' :: inside) rest

/-- Two characters outside the comments have nothing but comments between them, and what is behind
the second one fulfils a condition. The text is gone over as the pass does it, so that the comments
meant are those that the pass removes. -/
inductive Meets (a b : Char) (P : List Char → Prop) : List Char → Prop
  | here {cs rest : List Char} (first : Bare (a :: cs)) (skips : Skips cs (b :: rest))
      (second : Bare (b :: rest)) (behind : P rest) : Meets a b P (a :: cs)
  | bare {c : Char} {cs : List Char} (first : Bare (c :: cs)) (later : Meets a b P cs) :
      Meets a b P (c :: cs)
  | comment {inside behind : List Char} (ends : afterComment inside = some behind)
      (later : Meets a b P behind) : Meets a b P ('/' :: '*' :: inside)

/-- A comment comes about when those of a text are removed: a `/` meets a `*`, and behind them a `*`
meets a `/`. -/
def Splices (cs : List Char) : Prop := Meets '/' '*' (Meets '*' '/' fun _ => True) cs

variable {a b c : Char} {cs inside behind rest kept : List Char} {P : List Char → Prop}

/-! ### The pass over a text -/

theorem not_bare (ends : afterComment inside = some behind) : ¬ Bare ('/' :: '*' :: inside) :=
  fun bare => bare inside rfl (afterComment_isSome_iff.1 (by simp [ends]))

/-- **A text is passed character by character and comment by comment.** By induction on its length.
-/
@[elab_as_elim]
theorem comment_induction {motive : List Char → Prop} (nil : motive [])
    (bare : ∀ c cs, Bare (c :: cs) → motive cs → motive (c :: cs))
    (comment : ∀ inside behind, afterComment inside = some behind → motive behind →
      motive ('/' :: '*' :: inside)) (cs : List Char) : motive cs := by
  induction length : cs.length using Nat.strongRecOn generalizing cs with
  | ind n ih =>
    subst length
    cases cs with
    | nil => exact nil
    | cons c cs =>
        by_cases first : Bare (c :: cs)
        · exact bare c cs first (ih _ (Nat.lt_succ_self _) cs rfl)
        · obtain ⟨rfl, inside, rfl, closed⟩ :
              c = '/' ∧ ∃ inside, cs = '*' :: inside ∧ Closed inside := by
            simpa [Bare] using first
          obtain ⟨behind, ends⟩ := Option.isSome_iff_exists.1 (afterComment_isSome_iff.2 closed)
          have shorter := afterComment_length_le ends
          exact comment inside behind ends
            (ih _ (by rw [List.length_cons, List.length_cons]; omega) behind rfl)

theorem stripComments_of_comment (ends : afterComment inside = some behind) :
    stripComments ('/' :: '*' :: inside) = stripComments behind := by
  rw [stripComments]
  split
  · next found => rw [Option.some.inj (ends.symm.trans found)]
  · next missing => rw [ends] at missing; cases missing

/-- A character that starts no comment is kept. -/
theorem stripComments_of_bare (bare : Bare (c :: cs)) :
    stripComments (c :: cs) = c :: stripComments cs := by
  by_cases opens : c = '/' ∧ ∃ inside, cs = '*' :: inside
  · -- without a closing behind it all of the text is kept
    obtain ⟨rfl, inside, rfl⟩ := opens
    have unclosed : ¬ Closed inside := bare inside rfl
    have rest : ¬ Commented ('*' :: inside) := by
      simpa [commented_cons] using fun commented : Commented inside => unclosed commented.closed
    have whole : ¬ Commented ('/' :: '*' :: inside) := by
      simpa [commented_cons (c := '/'), unclosed] using rest
    rw [stripComments_eq_self_iff.2 whole, stripComments_eq_self_iff.2 rest]
  · rw [stripComments]
    rintro inside rfl rfl
    exact opens ⟨rfl, inside, rfl⟩

/-! ### What is left of a text -/

theorem skips_iff_of_bare (bare : Bare cs) : Skips cs rest ↔ rest = cs := by
  constructor
  · rintro (_ | ⟨ends, -⟩)
    · rfl
    · exact absurd bare (not_bare ends)
  · rintro rfl
    exact .none

theorem skips_iff_of_comment (ends : afterComment inside = some behind) :
    Skips ('/' :: '*' :: inside) rest ↔ rest = '/' :: '*' :: inside ∨ Skips behind rest := by
  constructor
  · rintro (_ | ⟨found, skips⟩)
    · exact .inl rfl
    · exact .inr (Option.some.inj (ends.symm.trans found) ▸ skips)
  · rintro (rfl | skips)
    · exact .none
    · exact .comment ends skips

/-- **The first character that is left is the first one behind some comments.** -/
theorem stripComments_eq_cons_iff :
    stripComments cs = b :: kept
      ↔ ∃ rest, Skips cs (b :: rest) ∧ Bare (b :: rest) ∧ stripComments rest = kept := by
  induction cs using comment_induction with
  | nil =>
      refine iff_of_false (by simp [stripComments]) ?_
      rintro ⟨rest, skips, -⟩
      cases skips
  | bare c cs bare =>
      rw [stripComments_of_bare bare, List.cons.injEq]
      constructor
      · rintro ⟨rfl, same⟩
        exact ⟨cs, .none, bare, same⟩
      · rintro ⟨rest, skips, -, same⟩
        obtain ⟨rfl, rfl⟩ := List.cons.inj ((skips_iff_of_bare bare).1 skips)
        exact ⟨rfl, same⟩
  | comment inside behind ends ih =>
      rw [stripComments_of_comment ends, ih]
      refine exists_congr fun rest => and_congr_left fun left => ?_
      rw [skips_iff_of_comment ends, or_iff_right]
      exact fun same => not_bare ends (same ▸ left.1)

theorem meets_iff_of_bare (bare : Bare (c :: cs)) :
    Meets a b P (c :: cs)
      ↔ (c = a ∧ ∃ rest, Skips cs (b :: rest) ∧ Bare (b :: rest) ∧ P rest) ∨ Meets a b P cs := by
  constructor
  · rintro (⟨-, skips, second, behind⟩ | ⟨-, later⟩ | ⟨ends, -⟩)
    · exact .inl ⟨rfl, _, skips, second, behind⟩
    · exact .inr later
    · exact absurd bare (not_bare ends)
  · rintro (⟨rfl, rest, skips, second, behind⟩ | later)
    · exact .here bare skips second behind
    · exact .bare bare later

theorem meets_iff_of_comment (ends : afterComment inside = some behind) :
    Meets a b P ('/' :: '*' :: inside) ↔ Meets a b P behind := by
  constructor
  · rintro (⟨first, -⟩ | ⟨first, -⟩ | ⟨found, later⟩)
    · exact absurd first (not_bare ends)
    · exact absurd first (not_bare ends)
    · exact Option.some.inj (ends.symm.trans found) ▸ later
  · exact .comment ends

/-- **Two characters are next to each other in what is left if and only if they meet in the text.** -/
theorem pair_stripComments_iff :
    Pair a b P (stripComments cs) ↔ Meets a b (fun rest => P (stripComments rest)) cs := by
  induction cs using comment_induction with
  | nil =>
      refine iff_of_false (by simp [stripComments, Pair]) ?_
      rintro ⟨⟩
  | bare c cs bare ih =>
      rw [stripComments_of_bare bare, pair_cons, meets_iff_of_bare bare, ih]
      refine or_congr_left (and_congr_right fun _ => ?_)
      simp only [stripComments_eq_cons_iff]
      constructor
      · rintro ⟨_, ⟨rest, skips, second, rfl⟩, behind⟩
        exact ⟨rest, skips, second, behind⟩
      · rintro ⟨rest, skips, second, behind⟩
        exact ⟨_, ⟨rest, skips, second, rfl⟩, behind⟩
  | comment inside behind ends ih =>
      rw [stripComments_of_comment ends, ih, meets_iff_of_comment ends]

/-- **There is a comment in what is left of a text if and only if the text splices one.** -/
theorem commented_stripComments_iff : Commented (stripComments cs) ↔ Splices cs := by
  have closed : (fun rest => Closed (stripComments rest)) = Meets '*' '/' fun _ => True := by
    funext rest
    rw [closed_iff_pair, pair_stripComments_iff]
  rw [commented_iff_pair, pair_stripComments_iff, closed, Splices]

instance (cs : List Char) : Decidable (Splices cs) :=
  decidable_of_iff _ commented_stripComments_iff

/-- Neither of the two comments of a text is left, but there is one. -/
example : Splices "1//**/* x */".toList ∧ ¬ Splices "1 / /**/ * x */".toList := by decide +kernel

end QueryFlow.Text
