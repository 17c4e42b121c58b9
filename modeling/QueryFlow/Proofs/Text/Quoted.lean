import QueryFlow.Proofs.Lists
import QueryFlow.Text.Quoted

/-!
# What stands in quotes

A text in quotes ends at the first quote that is not doubled. Since every quote of a text is doubled
when it is written, the quote that closes it is the first such one, unless another quote follows.

The match tries the longest body first and may give up pairs of quotes. As with runs, there are two
ways to say what it finds. A written text is matched as it was written, because the longest body
that it tries ends at the closing quote and the rest of the pattern succeeds there. And if the rest
of the pattern never starts at a quote, going back to a pair never helps, and the rest of the
pattern decides alone (`quotedBody_of_closed`). The inductions are on the text that is quoted, with
a case for a quote in it and one for any other character.

What can be found in a quoted text without quotes is found in the text itself: a word does not come
about by doubling quotes, nor is one lost.

## Main results

* `quotedBody_quote`: a quoted text is matched as it was written.
* `quotedBody_of_closed`: if the rest of the pattern never starts at a quote, it decides.
* `exists_of_quotedBody`: what is matched in quotes is a quoted text.
* `quotedBody_append`: what stands behind without quotes does not matter.
* `infix_of_quote`: doubling quotes makes no new part without quotes.
-/

namespace QueryFlow.Text

variable {α β : Type} {cs rest t : List Char}

/-- **A quoted text is matched as it was written**, up to the quote that closes it. -/
theorem quotedBody_quote {k : List Char → List Char → Option α} {answer : α}
    (stop : rest.head? ≠ some '\'') (here : k (quote cs) rest = some answer) :
    quotedBody k (quote cs ++ '\'' :: rest) = some answer := by
  induction cs generalizing k with
  | nil =>
      cases rest with
      | nil => exact here
      | cons c rest =>
          have other : c ≠ '\'' := by simpa using stop
          simpa [quote, quotedBody, other] using here
  | cons c cs ih =>
      by_cases same : c = '\''
      · subst same
        have inner := ih (k := fun body => k ('\'' :: '\'' :: body)) (by simpa [quote] using here)
        simp [quote, quotedBody, inner]
      · have inner := ih (k := fun body => k (c :: body)) (by simpa [quote, same] using here)
        simp [quote, quotedBody, same, inner]

/-- Other characters than quotes are written once. -/
theorem quote_cons {c : Char} (other : c ≠ '\'') : quote (c :: cs) = c :: quote cs := by
  simp [quote, other]

section Continuation

variable {k : List Char → List Char → Option α} {answer : α}

theorem quotedBody_cons {c : Char} (other : c ≠ '\'') :
    quotedBody k (c :: cs) = quotedBody (fun body => k (c :: body)) cs := by
  rw [quotedBody]
  · simp [other]
  · simp [other]

/-- **A quoted text is matched as it was written if the rest of the pattern never starts at a
quote**, and then the rest decides. -/
theorem quotedBody_of_closed (closed : rest.head? ≠ some '\'')
    (stuck : ∀ body cs, k body ('\'' :: cs) = none) :
    quotedBody k (quote t ++ '\'' :: rest) = k (quote t) rest := by
  induction t generalizing k with
  | nil =>
      cases rest with
      | nil => rfl
      | cons c rest =>
          have other : c ≠ '\'' := by simpa using closed
          simp [quote, quotedBody, other]
  | cons c t ih =>
      by_cases same : c = '\''
      · subst same
        have inner := ih (k := fun body => k ('\'' :: '\'' :: body)) fun body => stuck _
        simp only [quote, beq_self_eq_true, if_true, List.cons_append, quotedBody, inner]
        cases k ('\'' :: '\'' :: quote t) rest with
        | none => exact stuck _ _
        | some answer => rfl
      · have inner := ih (k := fun body => k (c :: body)) fun body => stuck _
        rw [quote_cons same, List.cons_append, quotedBody_cons same, inner]

/-- **What is matched in quotes is a quoted text.** -/
theorem exists_of_quotedBody (found : quotedBody k cs = some answer) :
    ∃ t rest, cs = quote t ++ '\'' :: rest ∧ k (quote t) rest = some answer := by
  fun_induction quotedBody k cs with
  | case1 => cases found
  | case2 k rest other inner ih =>
      obtain ⟨t, rest, rfl, here⟩ := ih (inner.trans found)
      exact ⟨'\'' :: t, rest, rfl, here⟩
  | case3 k rest inner ih => exact ⟨[], _, rfl, found⟩
  | case4 k rest => exact ⟨[], rest, rfl, found⟩
  | case5 k c rest single other ih =>
      obtain ⟨t, rest, rfl, here⟩ := ih found
      have written : quote (c :: t) = c :: quote t := quote_cons other
      exact ⟨c :: t, rest, by rw [written, List.cons_append], by rw [written]; exact here⟩

/-- Nothing is matched in quotes if nothing closes them. -/
theorem quotedBody_of_notMem (unclosed : '\'' ∉ cs) : quotedBody k cs = none := by
  cases found : quotedBody k cs with
  | none => rfl
  | some answer =>
      obtain ⟨t, rest, rfl, -⟩ := exists_of_quotedBody found
      exact absurd (by simp) unclosed

/-- **What stands behind a text in quotes and has none does not matter** if the rest of the pattern
does not look at it. -/
theorem quotedBody_append {behind : List Char} (unquoted : '\'' ∉ behind)
    (blind : ∀ body rest, k body (rest ++ behind) = k body rest) :
    quotedBody k (cs ++ behind) = quotedBody k cs := by
  fun_induction quotedBody k cs with
  | case1 => exact quotedBody_of_notMem unquoted
  | case2 k rest other inner ih =>
      have same := ih fun body => blind ('\'' :: '\'' :: body)
      simp [quotedBody, same, inner]
  | case3 k rest inner ih =>
      have same := ih fun body => blind ('\'' :: '\'' :: body)
      have here := blind [] ('\'' :: rest)
      simp_all [quotedBody]
  | case4 k rest single =>
      -- the last quote of the text stays the last one
      rw [← blind [] rest, List.cons_append, quotedBody]
      intro more same
      cases rest with
      | nil => exact unquoted (by simp_all)
      | cons c rest => simp_all
  | case5 k c rest single other ih =>
      have same := ih fun body => blind (c :: body)
      rw [List.cons_append, quotedBody_cons other, same]

/-- What is made of an answer can also be made at the end of the pattern. -/
theorem quotedBody_map (f : α → β) :
    quotedBody (fun body rest => (k body rest).map f) cs = (quotedBody k cs).map f := by
  fun_induction quotedBody k cs with
  | case1 => rfl
  | case2 k rest other inner ih => simp [quotedBody, ih, inner]
  | case3 k rest inner ih => simp [quotedBody, ih, inner]
  | case4 k rest single => simp_all [quotedBody]
  | case5 k c rest single other ih => rw [quotedBody_cons other, ih]

end Continuation

/-- What starts a quoted text and has no quotes starts the text. -/
theorem prefix_of_quote (unquoted : '\'' ∉ t) (starts : t <+: quote cs) : t <+: cs := by
  induction cs generalizing t with
  | nil => exact starts
  | cons c cs ih =>
      by_cases same : c = '\''
      · subst same
        simp only [quote, beq_self_eq_true, if_true] at starts
        exact eq_nil_of_prefix_cons unquoted starts ▸ List.nil_prefix
      · simp only [quote, beq_iff_eq, same, if_false] at starts
        rcases List.prefix_cons_iff.1 starts with rfl | ⟨more, rfl, goes_on⟩
        · exact List.nil_prefix
        · have unquoted : '\'' ∉ more := fun member => unquoted (List.mem_cons_of_mem _ member)
          exact List.cons_prefix_cons.2 ⟨rfl, ih unquoted goes_on⟩

/-- **Doubling quotes makes no new part without quotes.** -/
theorem infix_of_quote (unquoted : '\'' ∉ t) (inside : t <:+: quote cs) : t <:+: cs := by
  induction cs with
  | nil => exact inside
  | cons c cs ih =>
      by_cases same : c = '\''
      · subst same
        have split : quote ('\'' :: cs) = [] ++ '\'' :: ([] ++ '\'' :: quote cs) := by simp [quote]
        rw [split, infix_append_cons_iff unquoted, infix_append_cons_iff unquoted] at inside
        rcases inside with none | none | inside
        · exact none.trans List.nil_infix
        · exact none.trans List.nil_infix
        · exact List.infix_cons (ih inside)
      · have split : quote (c :: cs) = c :: quote cs := by simp [quote, same]
        rcases List.infix_cons_iff.1 (split ▸ inside) with starts | inside
        · exact (prefix_of_quote unquoted (split.symm ▸ starts)).isInfix
        · exact List.infix_cons (ih inside)

end QueryFlow.Text
