import Mathlib.Data.List.Basic
import QueryFlow.Toml.Scan

/-!
# What scans do

A scan is computed on a text by telling what each of its parts does there. The equations of this
module do that for the parts that all scans are made of; those for the forms of a character hold
where the character is known, and the others tell what a scan does where it does not find what it
looks for. Every equation has a text with a known front on its left side, so that rewriting with
them moves along the text.

Repetition is unrolled by two equations, one for an answer and one for the end of the answers. An
induction on what is written can then follow a repetition step by step, with the fuel as a number
that is large enough.

## Main results

* `manyUpTo_of_some` and `manyUpTo_of_none`: the answers of a scan, one by one.
* `blanks_append`, `newline_of_ne` and `lineEnd_newline`: blanks and the ends of lines.
-/

namespace QueryFlow.Toml.Scan

variable {α : Type} {p q : Scan α} {c d : Char} {cs rest : List Char}

/-! ### Parts of scans -/

@[simp] theorem refuse_apply : (refuse : Scan α) cs = none := rfl

@[simp] theorem peek_cons : peek (c :: cs) = some (some c, c :: cs) := rfl

@[simp] theorem next_cons : next (c :: cs) = some (c, cs) := rfl

/-- Another character is not the one that has to be there. -/
theorem exactly_of_ne (different : d ≠ c) : exactly c (d :: cs) = none := by
  simp [exactly, different]

@[simp] theorem accept_cons_self : accept c (c :: cs) = some (true, cs) := by
  simp [accept]

/-- Another character is left where it is. -/
theorem accept_of_ne (different : d ≠ c) : accept c (d :: cs) = some (false, d :: cs) := by
  simp [accept, different]

/-- Characters that are there are taken. -/
theorem phrase_append (cs rest : List Char) : phrase cs (cs ++ rest) = some ((), rest) := by
  simp [phrase]

/-- The second scan is made if the first one cannot. -/
theorem orElse_apply : (p <|> q) cs = (p cs <|> q cs) := rfl

/-- A function of an answer takes nothing more. -/
@[simp] theorem map_apply {β : Type} (f : α → β) :
    (f <$> p : Scan β) cs = (p cs).map fun read => (f read.1, read.2) := by
  cases found : p cs <;> simp [Functor.map, StateT.map, found]

/-- A scan that can be made is made. -/
theorem attempt_of_some {a : α} (found : p cs = some (a, rest)) :
    attempt p cs = some (some a, rest) := by
  simp [attempt, found]

/-- A scan that cannot be made takes nothing. -/
theorem attempt_of_none (missing : p cs = none) : attempt p cs = some (none, cs) := by
  simp [attempt, missing]

/-- The answers end where a scan answers nothing. -/
theorem manyUpTo_of_none {p : Scan (Option α)} {fuel : Nat} (stops : p cs = some (none, rest)) :
    manyUpTo p (fuel + 1) cs = some ([], rest) := by
  simp [manyUpTo, bind_apply, stops]

/-- An answer stands in front of those that follow. -/
theorem manyUpTo_of_some {p : Scan (Option α)} {fuel : Nat} {a : α}
    (answers : p cs = some (some a, rest)) :
    manyUpTo p (fuel + 1) cs = (manyUpTo p fuel rest).map fun read => (a :: read.1, read.2) := by
  simp [manyUpTo, bind_apply, answers]

/-! ### Blanks and lines -/

/-- Blanks end in front of another character. -/
theorem blanks_append (gap : List Char) (blank : ∀ c ∈ gap, isLineBlank c = true)
    (other : isLineBlank d = false) : blanks (gap ++ d :: cs) = some ((), d :: cs) := by
  have run : spanOf isLineBlank (gap ++ d :: cs) = some (gap, d :: cs) :=
    spanOf_append blank (by simpa using other)
  simp [blanks, run]

/-- There are no blanks in front of another character. -/
theorem blanks_of_head (other : isLineBlank d = false) : blanks (d :: cs) = some ((), d :: cs) := by
  simpa using blanks_append [] (by simp) other

@[simp] theorem newline_cons : newline ('\n' :: cs) = some ((), cs) := by
  simp [newline, orElse_apply]

/-- Another character is no end of a line. -/
theorem newline_of_ne (line : d ≠ '\n') (mark : d ≠ '\r') : newline (d :: cs) = none := by
  simp [newline, orElse_apply, phrase, exactly, line, mark.symm]

/-- **A line ends where its text does**, and what follows is left. -/
theorem lineEnd_newline : lineEnd ('\n' :: cs) = some ((), cs) := by
  have noBlanks : blanks ('\n' :: cs) = some ((), '\n' :: cs) := blanks_of_head (by decide)
  have noComment : attempt comment ('\n' :: cs) = some (none, '\n' :: cs) :=
    attempt_of_none (by simp [comment, bind_apply, exactly])
  simp [lineEnd, bind_apply, noBlanks, noComment, atEnd]

end QueryFlow.Toml.Scan
