import Mathlib.Logic.ExistsUnique
import QueryFlow.Proofs.Text.Splice
import QueryFlow.Text.Matching

/-!
# How a text is cut at its comments

Removing the comments of a text cuts it into `t₀ c₁ t₁ … cₙ tₙ`: a text `t₀`, then comments with a
text behind each, and it keeps `t₀ t₁ … tₙ`. Each comment is the first that begins behind the one
before it, and it ends at the first closing that does not overlap its opening. This leaves no
choice: a text has one such dissection only.

A text in front of a comment may itself have an opening or a closing in it. That no comment begins
there is a property of all that follows, not of the text alone: in `/*/ /* */` the first comment is
the whole text.

* `IsComment` — an opening and what follows it up to the first closing;
* `CommentAt` — a position at which a comment begins;
* `Dissection` — texts with a comment between any two of them;
* `Dissection.Leftmost` — every comment is the first one that begins there.

## How the two descriptions meet

The pass over a text says of a character that no comment starts there, and the dissection says of a
position that no comment begins at it. `bare_drop_iff` translates the one into the other, and
`exists_isComment_append_iff` does the same for what stands behind a comment. With these a leftmost
dissection is built along the pass: a character that starts no comment goes to the text in front of
the first one, and a comment starts a new text.

Uniqueness is an induction on one of the two dissections. The texts in front of the first comments
have the same length, because the first comment of either begins at no position that the other one
leaves out; the comments are the same, because a text starts with one comment at most; and the rests
are dissections of the same text.

## Main results

* `afterComment_eq_some_iff`: a comment ends at the first closing.
* `Dissection.exists_leftmost` and `Dissection.Leftmost.eq_of_whole_eq`: a text has exactly one
  leftmost dissection.
* `Dissection.Leftmost.stripComments_whole`: removing the comments keeps the texts between them.
* `stripInlineComments_dissects`: all of this of a text that is read from a log.
-/

namespace QueryFlow.Text

/-- A comment is an opening and what follows it up to the first closing: the closing at its end is
the only one behind the opening. -/
def IsComment (c : List Char) : Prop :=
  ∃ inside, c = '/' :: '*' :: (inside ++ ['*', '/'])
    ∧ ∀ before behind, inside ++ ['*', '/'] = before ++ '*' :: '/' :: behind → before = inside

/-- A comment begins at a position of a text, whatever stands in front of it. -/
def CommentAt (cs : List Char) (k : Nat) : Prop := ∃ c, IsComment c ∧ c <+: cs.drop k

/-- A text that is cut into texts with a comment between any two of them. Any lists of characters
may stand for the parts; which of them are comments is said by `Leftmost`. -/
inductive Dissection
  | last (text : List Char)
  | comment (text comment : List Char) (rest : Dissection)
  deriving DecidableEq, Repr

namespace Dissection

/-- The text that was cut: its pieces one behind the other, with the comments in their places. -/
def whole : Dissection → List Char
  | last text => text
  | comment text c rest => text ++ (c ++ rest.whole)

/-- The texts without the comments, one behind the other. -/
def kept : Dissection → List Char
  | last text => text
  | comment text _ rest => text ++ rest.kept

/-- Every comment is the first one that begins in what is behind the comment before it, and there
is no comment behind the last one. -/
def Leftmost : Dissection → Prop
  | last text => ¬ Commented text
  | comment text c rest =>
      IsComment c ∧ (∀ k < text.length, ¬ CommentAt (text ++ (c ++ rest.whole)) k) ∧ rest.Leftmost

/-- One more character in front. -/
def cons (c : Char) : Dissection → Dissection
  | last text => last (c :: text)
  | comment text d rest => comment (c :: text) d rest

end Dissection

variable {c d cs text other inside behind rest : List Char} {k : Nat}

/-! ### Where a comment ends -/

/-- If a text starts with a closing, every other closing of it has that one in front. -/
theorem eq_nil_or_closed (same : '*' :: '/' :: rest = inside ++ '*' :: '/' :: behind) :
    inside = [] ∨ Closed inside := by
  match inside with
  | [] => exact .inl rfl
  | [_] => simp at same
  | c :: d :: inside =>
      simp only [List.cons_append, List.cons.injEq] at same
      obtain ⟨rfl, rfl, -⟩ := same
      exact .inr ⟨[], inside, rfl⟩

/-- **A comment ends at the first closing.** By the recursion of `afterComment`, which looks at two
characters at a time. -/
theorem afterComment_eq_some_iff :
    afterComment cs = some behind
      ↔ ∃ inside, cs = inside ++ '*' :: '/' :: behind ∧ ¬ Closed inside := by
  fun_induction afterComment cs with
  | case1 => simp
  | case2 rest =>
      constructor
      · rintro ⟨⟩
        exact ⟨[], rfl, by simp [Closed]⟩
      · rintro ⟨inside, same, unclosed⟩
        obtain rfl := (eq_nil_or_closed same).resolve_right unclosed
        simpa using same
  | case3 c rest other ih =>
      rw [ih]
      constructor
      · rintro ⟨inside, rfl, unclosed⟩
        refine ⟨c :: inside, rfl, ?_⟩
        rw [closed_cons, not_or]
        refine ⟨?_, unclosed⟩
        rintro ⟨rfl, first⟩
        obtain ⟨more, rfl⟩ := List.head?_eq_some_iff.1 first
        exact other _ rfl rfl
      · rintro ⟨inside, same, unclosed⟩
        cases inside with
        | nil =>
            obtain ⟨rfl, rfl⟩ := List.cons.inj same
            exact absurd rfl (other behind rfl)
        | cons d inside =>
            obtain ⟨rfl, rfl⟩ := List.cons.inj same
            exact ⟨inside, rfl, fun closed => unclosed (closed_cons.2 (.inr closed))⟩

/-- There is no closing in a text if and only if one that is put behind it is the first. -/
theorem not_closed_iff :
    ¬ Closed inside
      ↔ ∀ before behind, inside ++ ['*', '/'] = before ++ '*' :: '/' :: behind → before = inside := by
  constructor
  · intro unclosed before behind same
    rcases List.append_eq_append_iff.1 same with ⟨more, rfl, marks⟩ | ⟨more, rfl, marks⟩
    · have short := congrArg List.length marks
      simp only [List.length_append, List.length_cons, List.length_nil] at short
      obtain rfl : more = [] := List.eq_nil_of_length_eq_zero (by omega)
      exact List.append_nil inside
    · have none : ¬ Closed more := fun ⟨front, back, inner⟩ =>
        unclosed ⟨before ++ front, back, by simp [inner]⟩
      obtain rfl := (eq_nil_or_closed marks).resolve_right none
      exact (List.append_nil before).symm
  · rintro first ⟨before, behind, rfl⟩
    have same := first before (behind ++ ['*', '/']) (by simp)
    simp at same

theorem isComment_iff :
    IsComment c ↔ ∃ inside, c = '/' :: '*' :: (inside ++ ['*', '/']) ∧ ¬ Closed inside := by
  simp only [IsComment, not_closed_iff]

/-- **A text starts with a comment if and only if the end of one is found**, and then what is behind
the comment is what is found there. -/
theorem exists_isComment_append_iff :
    (∃ c, IsComment c ∧ c ++ behind = cs)
      ↔ ∃ inside, cs = '/' :: '*' :: inside ∧ afterComment inside = some behind := by
  simp only [isComment_iff, afterComment_eq_some_iff]
  constructor
  · rintro ⟨_, ⟨inside, rfl, unclosed⟩, rfl⟩
    exact ⟨_, by simp, inside, rfl, unclosed⟩
  · rintro ⟨_, rfl, inside, rfl, unclosed⟩
    exact ⟨_, ⟨inside, rfl, unclosed⟩, by simp⟩

/-- A text starts with one comment at most. -/
theorem IsComment.append_inj (first : IsComment c) (second : IsComment d)
    (same : c ++ behind = d ++ rest) : c = d ∧ behind = rest := by
  obtain ⟨inside, starts, ends⟩ := exists_isComment_append_iff.1 ⟨c, first, rfl⟩
  obtain ⟨inside', starts', ends'⟩ := exists_isComment_append_iff.1 ⟨d, second, same.symm⟩
  obtain rfl : inside = inside' := by simpa using starts.symm.trans starts'
  obtain rfl : behind = rest := Option.some.inj (ends.symm.trans ends')
  exact ⟨List.append_cancel_right same, rfl⟩

/-! ### Where a comment begins -/

theorem bare_drop_iff : Bare (cs.drop k) ↔ ¬ CommentAt cs k := by
  constructor
  · rintro bare ⟨c, comment, behind, same⟩
    obtain ⟨inside, starts, ends⟩ := exists_isComment_append_iff.1 ⟨c, comment, same⟩
    exact not_bare ends (starts ▸ bare)
  · intro none inside starts closed
    obtain ⟨behind, ends⟩ := Option.isSome_iff_exists.1 (afterComment_isSome_iff.2 closed)
    obtain ⟨c, comment, same⟩ := exists_isComment_append_iff.2 ⟨inside, starts, ends⟩
    exact none ⟨c, comment, behind, same⟩

theorem IsComment.commentAt_length (comment : IsComment c) (before behind : List Char) :
    CommentAt (before ++ (c ++ behind)) before.length :=
  ⟨c, comment, by simp⟩

/-- **There is a comment in a text if and only if one begins somewhere.** -/
theorem commented_iff_exists_commentAt : Commented cs ↔ ∃ k, CommentAt cs k := by
  constructor
  · rintro ⟨before, inside, behind, rfl⟩
    refine ⟨before.length, Classical.not_not.1 fun none => ?_⟩
    exact bare_drop_iff.2 none (inside ++ '*' :: '/' :: behind) (by simp) ⟨inside, behind, rfl⟩
  · rintro ⟨k, _, ⟨inside, rfl, -⟩, behind, same⟩
    refine ⟨cs.take k, inside, behind, ?_⟩
    calc cs = cs.take k ++ cs.drop k := (List.take_append_drop k cs).symm
      _ = cs.take k ++ '/' :: '*' :: (inside ++ '*' :: '/' :: behind) := by simp [← same]

/-- What stands in front of every comment is kept. -/
theorem stripComments_append (front : ∀ k < text.length, ¬ CommentAt (text ++ cs) k) :
    stripComments (text ++ cs) = text ++ stripComments cs := by
  induction text with
  | nil => rfl
  | cons c text ih =>
      have bare : Bare (c :: (text ++ cs)) := bare_drop_iff.2 (front 0 (Nat.succ_pos _))
      have later : ∀ k < text.length, ¬ CommentAt (text ++ cs) k := fun k inside => by
        simpa [CommentAt] using front (k + 1) (Nat.succ_lt_succ inside)
      rw [List.cons_append, stripComments_of_bare bare, ih later, List.cons_append]

/-- What is in front of the first comment is no longer than what is in front of any other. -/
theorem length_le_of_front (second : IsComment d) (same : text ++ cs = other ++ (d ++ rest))
    (front : ∀ k < text.length, ¬ CommentAt (text ++ cs) k) : text.length ≤ other.length :=
  Nat.le_of_not_lt fun longer =>
    front other.length longer (same ▸ second.commentAt_length other rest)

/-! ### Dissections of a text -/

namespace Dissection

theorem whole_cons (c : Char) (cut : Dissection) : (cut.cons c).whole = c :: cut.whole := by
  cases cut <;> rfl

/-- A character that starts no comment goes to the text in front of the first one. -/
theorem Leftmost.cons {c : Char} {cut : Dissection} (leftmost : cut.Leftmost)
    (bare : Bare (c :: cut.whole)) : (cut.cons c).Leftmost := by
  cases cut with
  | last text =>
      rintro commented
      rcases commented_cons.1 commented with ⟨rfl, inside, rfl, closed⟩ | commented
      · exact bare inside rfl closed
      · exact leftmost commented
  | comment text d rest =>
      obtain ⟨comment, front, later⟩ := leftmost
      refine ⟨comment, fun k inside => ?_, later⟩
      cases k with
      | zero => exact bare_drop_iff.1 bare
      | succ k => simpa [CommentAt] using front k (Nat.lt_of_succ_lt_succ inside)

/-- **Every text has a leftmost dissection.** -/
theorem exists_leftmost (cs : List Char) : ∃ cut : Dissection, cut.Leftmost ∧ cut.whole = cs := by
  induction cs using comment_induction with
  | nil => exact ⟨last [], by simp [Leftmost, Commented], rfl⟩
  | bare c cs bare ih =>
      obtain ⟨cut, leftmost, rfl⟩ := ih
      exact ⟨cut.cons c, leftmost.cons bare, whole_cons c cut⟩
  | comment inside behind ends ih =>
      obtain ⟨cut, leftmost, rfl⟩ := ih
      obtain ⟨c, found, same⟩ := exists_isComment_append_iff.2 ⟨inside, rfl, ends⟩
      exact ⟨comment [] c cut, ⟨found, by simp, leftmost⟩, same⟩

/-- **Two leftmost dissections of a text are the same.** By induction on the first: both begin with
the text up to the first comment, and that comment ends at its first closing. -/
theorem Leftmost.eq_of_whole_eq {cut other : Dissection} (first : cut.Leftmost)
    (second : other.Leftmost) (same : cut.whole = other.whole) : cut = other := by
  induction cut generalizing other with
  | last text =>
      cases other with
      | last text' => exact congrArg last same
      | comment text' c' rest' =>
          obtain rfl : text = text' ++ (c' ++ rest'.whole) := same
          exact absurd (commented_iff_exists_commentAt.2 ⟨_, second.1.commentAt_length text' _⟩) first
  | comment text c rest ih =>
      cases other with
      | last text' =>
          obtain rfl : text ++ (c ++ rest.whole) = text' := same
          exact absurd (commented_iff_exists_commentAt.2 ⟨_, first.1.commentAt_length text _⟩) second
      | comment text' c' rest' =>
          obtain ⟨comment, front, later⟩ := first
          obtain ⟨comment', front', later'⟩ := second
          have long : text.length = text'.length := Nat.le_antisymm
            (length_le_of_front comment' same front) (length_le_of_front comment same.symm front')
          obtain ⟨rfl, behind⟩ := List.append_inj same long
          obtain ⟨rfl, more⟩ := comment.append_inj comment' behind
          rw [ih later later' more]

/-- **Removing the comments of a text keeps the texts between them.** By induction on the
dissection. -/
theorem Leftmost.stripComments_whole {cut : Dissection} (leftmost : cut.Leftmost) :
    stripComments cut.whole = cut.kept := by
  induction cut with
  | last text => exact stripComments_eq_self_iff.2 leftmost
  | comment text c rest ih =>
      obtain ⟨comment, front, later⟩ := leftmost
      obtain ⟨inside, starts, ends⟩ := exists_isComment_append_iff.1 ⟨c, comment, rfl⟩
      calc stripComments (text ++ (c ++ rest.whole))
          = text ++ stripComments (c ++ rest.whole) := stripComments_append front
        _ = text ++ stripComments rest.whole := by rw [starts, stripComments_of_comment ends]
        _ = text ++ rest.kept := by rw [ih later]

end Dissection

/-! ### Dissections are checked by evaluation -/

section Decidable

instance : Decidable (Closed cs) := decidable_of_iff _ afterComment_isSome_iff

instance : Decidable (Bare cs) :=
  decidable_of_iff (∀ inside ∈ literal ['/', '*'] cs, ¬ Closed inside) <|
    forall_congr' fun _ => imp_congr_left (literal_eq_some_iff _ _ _)

instance : Decidable (CommentAt cs k) :=
  decidable_of_iff (¬ Bare (cs.drop k)) <| (not_congr bare_drop_iff).trans Classical.not_not

instance : Decidable (IsComment c) :=
  decidable_of_iff (∃ inside ∈ literal ['/', '*'] c, afterComment inside = some []) <| by
    calc (∃ inside ∈ literal ['/', '*'] c, afterComment inside = some [])
        ↔ ∃ inside, c = '/' :: '*' :: inside ∧ afterComment inside = some [] :=
          exists_congr fun _ => and_congr_left fun _ => literal_eq_some_iff _ _ _
      _ ↔ ∃ d, IsComment d ∧ d ++ [] = c := exists_isComment_append_iff.symm
      _ ↔ IsComment c := by simp only [List.append_nil, exists_eq_right]

instance Dissection.decidableLeftmost : (cut : Dissection) → Decidable cut.Leftmost
  | last text => inferInstanceAs (Decidable (¬ Commented text))
  | comment text c rest =>
      have := rest.decidableLeftmost
      inferInstanceAs (Decidable (IsComment c ∧ (∀ k < text.length, _) ∧ rest.Leftmost))

/-- The `*` of an opening is not that of a closing. -/
example : IsComment "/**/".toList ∧ ¬ IsComment "/*/".toList ∧ ¬ IsComment "/**/*/".toList := by
  decide +kernel

end Decidable

/-- **A text is cut at its comments in exactly one way**, and it is kept but for the comments; so all
of it is kept if and only if there is no comment in it. -/
theorem stripInlineComments_dissects (s : String) :
    (∃! cut : Dissection, cut.Leftmost ∧ cut.whole = s.toList)
      ∧ (∀ cut : Dissection, cut.Leftmost → cut.whole = s.toList →
          stripInlineComments s = String.ofList cut.kept)
      ∧ (stripInlineComments s = s ↔ ¬ Commented s.toList) := by
  refine ⟨?_, fun cut leftmost same => ?_, ?_⟩
  · obtain ⟨cut, leftmost, same⟩ := Dissection.exists_leftmost s.toList
    exact ⟨cut, ⟨leftmost, same⟩, fun other ⟨leftmost', same'⟩ =>
      leftmost'.eq_of_whole_eq leftmost (same'.trans same.symm)⟩
  · rw [stripInlineComments, ← same, leftmost.stripComments_whole]
  · rw [stripInlineComments, ← stripComments_eq_self_iff, ← String.toList_inj,
      String.toList_ofList]

/-- The `*` that opens a comment does not close it, what is left behind a comment may start with a
closing, and a text whose only opening is never closed is kept. -/
theorem dissects_overlapping_marks :
    let cut : Dissection := .comment "a".toList "/*/b*/".toList
      (.comment "c".toList "/**/".toList (.last "*//*d".toList))
    cut.Leftmost ∧ cut.whole = "a/*/b*/c/**/*//*d".toList
      ∧ stripInlineComments "a/*/b*/c/**/*//*d" = "ac*//*d"
      ∧ ¬ Commented "/*/".toList ∧ stripInlineComments "/*/" = "/*/" := by
  intro cut
  have leftmost : cut.Leftmost := by decide +kernel
  have whole : cut.whole = "a/*/b*/c/**/*//*d".toList := by decide +kernel
  have unclosed : ¬ Commented "/*/".toList := by decide +kernel
  exact ⟨leftmost, whole, (stripInlineComments_dissects _).2.1 cut leftmost whole, unclosed,
    (stripInlineComments_dissects _).2.2.2 unclosed⟩

end QueryFlow.Text
