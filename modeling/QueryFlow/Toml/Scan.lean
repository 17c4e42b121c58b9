/-!
# Reading from the front of a text

A `Scan` takes a value from the front of a text, or finds that the text does not start as it should.
It is a state monad over a choice, so `do` blocks read one part after the other, and the alternative
`p <|> q` reads `q` from where `p` started: nothing is taken by a scan that fails.

## Repetition

`many` repeats a scan up to the first time that it answers nothing, which is not the same as
failing: a scan that fails in the middle makes the repetition fail. What ends a repetition is
therefore always said by the scan itself, with `peek` or `attempt`. The number of repetitions is
bounded by the length of the text, so that the recursion is structural.

## Equations

What a scan does on a text is computed by equations for its parts, which are here for the parts that
the reading of values rests on, and in `Proofs.Toml.Scan` for the others. A run of a class ends
before a character that is not in it, or with the text.

## Main statements

* `exactly_cons`: a character that is there is taken.
* `spanOf_append` and `spanOf1_append`: a run of a class ends before a character that is not in it.
-/

namespace QueryFlow.Toml

/-- Takes a value from the front of a text, or finds that the text does not start as it should. -/
abbrev Scan := StateT (List Char) Option

namespace Scan

variable {α : Type}

/-- The text does not start as it should. -/
def refuse : Scan α := fun _ => none

/-- The next character, which is left where it is. -/
def peek : Scan (Option Char) := fun cs => some (cs.head?, cs)

/-- The next character. -/
def next : Scan Char
  | [] => none
  | c :: rest => some (c, rest)

/-- The next character, which has to be `c`. -/
def exactly (c : Char) : Scan Unit
  | [] => none
  | d :: rest => if d = c then some ((), rest) else none

/-- The next characters, which have to be `cs`. -/
def phrase (cs : List Char) : Scan Unit := fun text =>
  if cs.isPrefixOf text then some ((), text.drop cs.length) else none

/-- Takes the character `c`, if it is next. -/
def accept (c : Char) : Scan Bool
  | [] => some (false, [])
  | d :: rest => if d = c then some (true, rest) else some (false, d :: rest)

/-- The characters up to the first one that is not in a class. -/
def spanOf (p : Char → Bool) : Scan (List Char) := fun cs =>
  some (cs.takeWhile p, cs.dropWhile p)

/-- At least one character of a class, and all that follow. -/
def spanOf1 (p : Char → Bool) : Scan (List Char) := do
  let run ← spanOf p
  if run.isEmpty then refuse else return run

/-- The scan, if it can be made. Otherwise nothing is taken. -/
def attempt (p : Scan α) : Scan (Option α) := fun cs =>
  match p cs with
  | some (a, rest) => some (some a, rest)
  | none => some (none, cs)

/-- At most `n` answers of a scan, up to the first time that it answers nothing. -/
def manyUpTo (p : Scan (Option α)) : Nat → Scan (List α)
  | 0 => return []
  | n + 1 => do
    match ← p with
    | none => return []
    | some a => return a :: (← manyUpTo p n)

/-- The answers of a scan, up to the first time that it answers nothing. -/
def many (p : Scan (Option α)) : Scan (List α) := do manyUpTo p ((← get).length + 1)

/-- There is no further character. -/
def atEnd : Scan Bool := fun cs => some (cs.isEmpty, cs)

/-! ### Blanks, lines and comments -/

/-- A blank inside a line. -/
def isLineBlank (c : Char) : Bool := c == ' ' || c == '\t'

/-- A character that is no control character. Tabs are none. -/
def isVisible (c : Char) : Bool := c == '\t' || (32 ≤ c.toNat && c.toNat != 127)

/-- Blanks inside a line. -/
def blanks : Scan Unit := do
  let _ ← spanOf isLineBlank

/-- The end of a line. -/
def newline : Scan Unit := exactly '\n' <|> phrase ['\r', '\n']

/-- A comment, up to the end of its line. -/
def comment : Scan Unit := do
  exactly '#'
  let _ ← spanOf isVisible

/-- The end of a line or of the text, behind blanks and a comment. -/
def lineEnd : Scan Unit := do
  blanks
  let _ ← attempt comment
  if ← atEnd then return
  newline

/-- Blanks, ends of lines and comments, as they may stand between the items of a list. -/
def gap : Scan Unit := do
  let _ ← many do
    blanks
    match ← attempt newline with
    | some _ => return some ()
    | none =>
      match ← attempt comment with
      | some _ =>
        newline
        return some ()
      | none => return none

/-! ### Equations -/

/-- An answer takes nothing. -/
@[simp] theorem pure_apply (a : α) (cs : List Char) : (pure a : Scan α) cs = some (a, cs) := rfl

/-- A scan goes on where the one before it stopped. -/
theorem bind_apply {β : Type} (p : Scan α) (f : α → Scan β) (cs : List Char) :
    (p >>= f) cs = (p cs).bind fun read => f read.1 read.2 := rfl

/-- The rest of the text is the state of a scan. -/
@[simp] theorem get_apply (cs : List Char) : (get : Scan (List Char)) cs = some (cs, cs) := rfl

/-- **A character that is there is taken.** -/
@[simp] theorem exactly_cons (c : Char) (rest : List Char) :
    exactly c (c :: rest) = some ((), rest) := by
  simp [exactly]

/-- **A run of a class ends before a character that is not in it.** -/
theorem spanOf_append {p : Char → Bool} {run rest : List Char} (all : ∀ c ∈ run, p c = true)
    (ends : ∀ c, rest.head? = some c → p c = false) :
    spanOf p (run ++ rest) = some (run, rest) := by
  have first : rest.takeWhile p = [] ∧ rest.dropWhile p = rest := by
    cases rest with
    | nil => simp
    | cons c rest => simp [ends c rfl]
  simp [spanOf, List.takeWhile_append_of_pos all, List.dropWhile_append_of_pos all, first]

/-- **A run of a class that has a character is a run of at least one.** -/
theorem spanOf1_append {p : Char → Bool} {run rest : List Char} (filled : run ≠ [])
    (all : ∀ c ∈ run, p c = true) (ends : ∀ c, rest.head? = some c → p c = false) :
    spanOf1 p (run ++ rest) = some (run, rest) := by
  simp [spanOf1, bind_apply, spanOf_append all ends, filled]

end Scan

end QueryFlow.Toml
