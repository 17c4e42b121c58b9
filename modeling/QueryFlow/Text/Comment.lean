/-!
# Inline comments

An inline comment starts with `/*` and ends with the first `*/` behind it that does not overlap the
opening. Comments do not nest, and an opening that is never closed is ordinary text.

Comments are removed in one pass from left to right, and what was passed is not looked at again. The
pass knows nothing of quotes: a comment in a quoted text is a comment like any other.

Main statement: `afterComment_length_le`, what follows a comment is no longer than the text it was
found in, by which the pass comes to an end.
-/

namespace QueryFlow.Text

/-- What follows the first `*/`, if there is one. It is looked for behind an opening, so that the
`*` of the opening is not taken for that of a closing. -/
def afterComment : List Char → Option (List Char)
  | [] => none
  | '*' :: '/' :: rest => some rest
  | _ :: rest => afterComment rest

/-- What follows a comment is no longer than the text it was found in. -/
theorem afterComment_length_le {cs rest : List Char} (h : afterComment cs = some rest) :
    rest.length ≤ cs.length := by
  fun_induction afterComment cs with
  | case1 => simp at h
  | case2 tail => simp only [Option.some.injEq] at h; subst h; simp; omega
  | case3 c tail _ ih => have := ih h; simp; omega

/-- Removes every inline comment, from left to right. An opening that is not closed is kept with all
that follows, since nothing behind it can close a later opening either. -/
def stripComments (cs : List Char) : List Char :=
  match cs with
  | [] => []
  | '/' :: '*' :: rest =>
    match h : afterComment rest with
    | some behind =>
      have := afterComment_length_le h
      stripComments behind
    | none => '/' :: '*' :: rest
  | c :: rest => c :: stripComments rest
termination_by cs.length

/-- Removes every inline comment of a text. -/
def stripInlineComments (s : String) : String := String.ofList (stripComments s.toList)

end QueryFlow.Text
