import QueryFlow.Proofs.Number.Digits
import QueryFlow.Proofs.Text.Matching
import QueryFlow.Sql.Reader

/-!
# The place that the words of a refusal name

A refusal ends with the place at which it was met. What stands in front of it quotes the lexeme that
does not fit, and this may be a text that reads like a place. The first place that the words name is
taken for that of the fault: the one at the end, or one that is quoted before it.

## How the proof goes

A `NamedPlace` is a place as words name it, by the digits of its line and of its column; digits need
not be those of the plain alphabet, and there may be leading zeros. `placeHere?` reads a place at
the start of some characters exactly where one is written, up to its last digit: `placeHere?_chars`
one way, `exists_of_placeHere?` the other way. So the search for a place can be talked about without
the pattern, by sublists of the words (`FirstNamed`).

The search runs over the reason, the words that lead on to the place at the end, and that place. It
must be shown that no place begins in the reason and goes on into what follows. Behind the reason
comes a blank and the letter `a`, which no place has (`notMem_chars`), and a place that ended with
the blank would not end with a digit. Hence `placeHere?_append`: whether a place is read at some
spot of the reason does not depend on what comes after it. By induction along the reason the search
finds what it finds in the reason alone, or else the place at the end: `firstPlace_placed`.

## Main results

* `placeHere?_chars` and `exists_of_placeHere?`: a place is read where one is written.
* `firstPlace_of_absent`: a refusal has the place at its end, if no place is named before it.
* `firstPlace_of_firstNamed`: otherwise it has the first place that is named.
-/

namespace QueryFlow.Sql

open QueryFlow.Text QueryFlow.Decimal

/-! ### Places in words -/

/-- A place as words name it: the digits of the line and those of the column. -/
structure NamedPlace where
  line : List Char
  column : List Char
  line_ne_nil : line ≠ []
  column_ne_nil : column ≠ []
  line_digits : ∀ c ∈ line, isDigit c = true
  column_digits : ∀ c ∈ column, isDigit c = true

namespace NamedPlace

/-- The words that name a place, as every refusal writes them. -/
def chars (n : NamedPlace) : List Char :=
  "Line: ".toList ++ (n.line ++ (", Column: ".toList ++ n.column))

/-- The place that is named: digits that exceed the numbers of faults count as the pattern takes
them. -/
def place (n : NamedPlace) : Nat × Nat := (placeNumber n.line, placeNumber n.column)

/-- The words that name a place, part by part, with what stands behind them. -/
theorem chars_append (n : NamedPlace) (rest : List Char) :
    n.chars ++ rest
      = "Line: ".toList ++ (n.line ++ (", Column: ".toList ++ (n.column ++ rest))) := by
  change ("Line: ".toList ++ (n.line ++ (", Column: ".toList ++ n.column))) ++ rest = _
  rw [List.append_assoc, List.append_assoc, List.append_assoc]

/-- No place has this letter. -/
theorem notMem_chars (n : NamedPlace) : 'a' ∉ n.chars := by
  have plain : isDigit 'a' = false := by decide
  change 'a' ∉ "Line: ".toList ++ (n.line ++ (", Column: ".toList ++ n.column))
  simp only [List.mem_append, not_or]
  refine ⟨by decide, fun member => ?_, by decide, fun member => ?_⟩
  · simp [n.line_digits _ member] at plain
  · simp [n.column_digits _ member] at plain

/-- A place ends with a digit. -/
theorem isDigit_of_getLast (n : NamedPlace) {before : List Char} {c : Char}
    (last : n.chars = before ++ [c]) : isDigit c = true := by
  have split : n.chars = ("Line: ".toList ++ (n.line ++ ", Column: ".toList)) ++ n.column := by
    change "Line: ".toList ++ (n.line ++ (", Column: ".toList ++ n.column)) = _
    rw [List.append_assoc, List.append_assoc]
  have final := congrArg List.getLast? (split.symm.trans last)
  rw [List.getLast?_concat, List.getLast?_append_of_ne_nil _ n.column_ne_nil] at final
  exact n.column_digits c (List.mem_of_getLast? final)

/-- A place with the digits that stand behind it. -/
def extended (n : NamedPlace) (behind : List Char) : NamedPlace :=
  { n with
    column := n.column ++ behind.takeWhile isDigit
    column_ne_nil := List.append_ne_nil_of_left_ne_nil n.column_ne_nil _
    column_digits := by
      intro c member
      rcases List.mem_append.1 member with member | member
      · exact n.column_digits c member
      · exact List.all_eq_true.1 List.all_takeWhile c member }

/-- A place takes the digits behind it for its column. -/
theorem chars_extended (n : NamedPlace) (behind : List Char) :
    (n.extended behind).chars ++ behind.dropWhile isDigit = n.chars ++ behind := by
  rw [chars_append, chars_append]
  simp only [extended, List.append_assoc, List.takeWhile_append_dropWhile]

end NamedPlace

/-- No digit is left behind the digits at the start. -/
theorem stop_dropWhile (behind : List Char) :
    ∀ c ∈ (behind.dropWhile isDigit).head?, isDigit c = false := by
  intro c first
  have := List.head?_dropWhile_not isDigit behind
  rwa [Option.mem_def.1 first] at this

variable {cs rest : List Char} {found : Nat × Nat}

/-- **A place is read where one is written**, up to its last digit. -/
theorem placeHere?_chars (n : NamedPlace) (stop : ∀ c ∈ rest.head?, isDigit c = false) :
    placeHere? (n.chars ++ rest) = some n.place := by
  rw [n.chars_append, placeHere?, literal_append, Option.bind_some]
  refine repeated1_longest n.line n.line_ne_nil n.line_digits (stop_append (by decide)) ?_
  rw [literal_append, Option.bind_some]
  exact repeated1_longest n.column n.column_ne_nil n.column_digits stop rfl

/-- A place is read wherever one stands, also if more digits follow. -/
theorem placeHere?_chars_ne_none (n : NamedPlace) (behind : List Char) :
    placeHere? (n.chars ++ behind) ≠ none := by
  rw [← n.chars_extended, placeHere?_chars _ (stop_dropWhile behind)]
  exact Option.some_ne_none _

/-- **Where a place is read one is written**, with all its digits: the pattern takes the longest
runs. -/
theorem exists_of_placeHere? (here : placeHere? cs = some found) :
    ∃ (n : NamedPlace) (rest : List Char), cs = n.chars ++ rest
      ∧ (∀ c ∈ rest.head?, isDigit c = false) ∧ n.place = found := by
  have read := here
  obtain ⟨_, introduced, here⟩ := Option.bind_eq_some_iff.1 here
  obtain ⟨line, _, rfl, line_ne, line_digits, here⟩ := exists_of_repeated1 here
  obtain ⟨_, divided, here⟩ := Option.bind_eq_some_iff.1 here
  obtain ⟨column, behind, rfl, column_ne, column_digits, -⟩ := exists_of_repeated1 here
  rw [literal_eq_some_iff] at introduced divided
  -- the digits of the column that were found first need not be all of them
  let shorter : NamedPlace :=
    ⟨line, column, line_ne, column_ne, List.all_eq_true.1 line_digits,
      List.all_eq_true.1 column_digits⟩
  have written : cs = (shorter.extended behind).chars ++ behind.dropWhile isDigit := by
    rw [shorter.chars_extended, shorter.chars_append, introduced, divided]
  refine ⟨_, _, written, stop_dropWhile behind, ?_⟩
  rw [written, placeHere?_chars _ (stop_dropWhile behind)] at read
  exact Option.some.inj read

/-- No place begins in front of the words that lead to the place at the end and goes on there. -/
theorem placeHere?_append (later : List Char) :
    placeHere? (later ++ ' ' :: 'a' :: rest) = placeHere? later := by
  have blank : ∀ more : List Char, (∀ c ∈ more.head?, isDigit c = false) →
      ∀ c ∈ (more ++ ' ' :: 'a' :: rest).head?, isDigit c = false := by
    intro more stop
    cases more with
    | nil => exact stop_cons (by decide)
    | cons d more => simpa using stop
  cases here : placeHere? later with
  | some found =>
      obtain ⟨n, more, rfl, stop, rfl⟩ := exists_of_placeHere? here
      rw [List.append_assoc, placeHere?_chars n (blank more stop)]
  | none =>
      cases beyond : placeHere? (later ++ ' ' :: 'a' :: rest) with
      | none => rfl
      | some found =>
          obtain ⟨n, more, same, stop, rfl⟩ := exists_of_placeHere? beyond
          rcases List.append_eq_append_iff.1 same with ⟨as, goesOn, tail⟩ | ⟨bs, rfl, rfl⟩
          · -- the place would end behind `later`, where a blank and the letter stand
            cases as with
            | nil =>
                rw [List.append_nil] at goesOn
                have read : placeHere? (n.chars ++ []) = some n.place :=
                  placeHere?_chars n (by simp)
                rw [List.append_nil, goesOn, here] at read
                cases read
            | cons c as =>
                cases as with
                | nil =>
                    have blank : ' ' = c := (List.cons.inj tail).1
                    exact absurd (n.isDigit_of_getLast goesOn) (by rw [← blank]; decide)
                | cons d as =>
                    have letter : 'a' = d := (List.cons.inj (List.cons.inj tail).2).1
                    exact absurd (by rw [goesOn, letter]; simp) n.notMem_chars
          · have stop' : ∀ c ∈ bs.head?, isDigit c = false := by
              cases bs with
              | nil => simp
              | cons d bs => simpa using stop
            rw [placeHere?_chars n stop'] at here
            cases here

/-! ### The words of a refusal -/

/-- The words of a refusal with the place at its end. -/
def placed (words : String) (line column : Nat) : String :=
  words ++ " at Line: " ++ intText line ++ ", Column: " ++ intText column

/-- A refusal becomes a fault with the first place of its words. -/
theorem syntaxFault_eq (words : String) :
    syntaxFault words
      = .sqlSyntax (.refused words) (firstPlace words).1 (firstPlace words).2 := rfl

/-- The place at the end of a refusal. -/
def placeAt (line column : Nat) : NamedPlace where
  line := natDigits line
  column := natDigits column
  line_ne_nil := natDigits_ne_nil line
  column_ne_nil := natDigits_ne_nil column
  line_digits _ member := isDigit_of_ascii (isDigit_of_mem_natDigits member)
  column_digits _ member := isDigit_of_ascii (isDigit_of_mem_natDigits member)

/-- The words of a refusal with the place at its end: the letter that no place has stands in
between. -/
theorem toList_placed (words : String) (line column : Nat) :
    (placed words line column).toList
      = words.toList ++ ' ' :: 'a' :: ("t ".toList ++ (placeAt line column).chars) := by
  have shape : (placed words line column).toList
      = words.toList ++ " at Line: ".toList ++ natDigits line ++ ", Column: ".toList
          ++ natDigits column := by
    simp only [placed, String.toList_append, toList_intText]
  rw [shape, List.append_assoc, List.append_assoc, List.append_assoc]
  rfl

/-- A number that fits is read back from its digits. -/
theorem placeNumber_natDigits {n : Nat} (small : n < UInt64.size) :
    placeNumber (natDigits n) = n := by
  have digits : (natDigits n).all Char.isDigit = true :=
    List.all_eq_true.2 fun c member => isDigit_of_mem_natDigits member
  rw [placeNumber, digitsValue_natDigits, digits, Bool.true_and, decide_eq_true small, if_pos rfl]

/-- The place that words name before the one at the end counts first. -/
theorem firstPlace_placed (words : String) {line column : Nat} (line_small : line < UInt64.size)
    (column_small : column < UInt64.size) :
    firstPlace (placed words line column)
      = (somewhere placeHere? words.toList).getD (line, column) := by
  have ending : somewhere placeHere? (' ' :: 'a' :: ("t ".toList ++ (placeAt line column).chars))
      = some (line, column) := by
    have read : placeHere? ((placeAt line column).chars ++ []) = some (placeAt line column).place :=
      placeHere?_chars _ (by simp)
    rw [List.append_nil] at read
    have named : (placeAt line column).place = (line, column) :=
      Prod.ext (placeNumber_natDigits line_small) (placeNumber_natDigits column_small)
    exact (somewhere_of_start (named ▸ read) : somewhere placeHere? (placeAt line column).chars = _)
  rw [firstPlace, toList_placed, somewhere_append rfl fun later _ _ => placeHere?_append later,
    ending]
  cases somewhere placeHere? words.toList <;> rfl

/-! ### The first place -/

/-- The first place that a text names, with all its digits: it stands there, no digit follows it,
and no place begins further in front. -/
def FirstNamed (text : List Char) (n : NamedPlace) : Prop :=
  ∃ before behind, text = before ++ (n.chars ++ behind) ∧ (∀ c ∈ behind.head?, isDigit c = false)
    ∧ ∀ later, later <:+ before → later ≠ [] →
      ∀ m : NamedPlace, ¬ m.chars <+: later ++ (n.chars ++ behind)

/-- No place is read exactly where none stands. -/
theorem placeHere?_eq_none_iff : placeHere? cs = none ↔ ∀ m : NamedPlace, ¬ m.chars <+: cs := by
  constructor
  · rintro nothing m ⟨behind, rfl⟩
    exact placeHere?_chars_ne_none m behind nothing
  · intro absent
    cases here : placeHere? cs with
    | none => rfl
    | some found =>
        obtain ⟨m, rest, rfl, -⟩ := exists_of_placeHere? here
        exact absurd (List.prefix_append _ _) (absent m)

/-- **The first place that is named is found**, the one that no other place begins in front of. -/
theorem somewhere_placeHere?_eq_some_iff :
    somewhere placeHere? cs = some found ↔ ∃ n, FirstNamed cs n ∧ n.place = found := by
  constructor
  · intro first
    obtain ⟨before, here, rfl, first, passed⟩ := exists_of_somewhere first
    obtain ⟨n, behind, rfl, stop, rfl⟩ := exists_of_placeHere? first
    exact ⟨n, ⟨before, behind, rfl, stop, fun later suffix nonempty =>
      placeHere?_eq_none_iff.1 (passed later suffix nonempty)⟩, rfl⟩
  · rintro ⟨n, ⟨before, behind, rfl, stop, passed⟩, rfl⟩
    rw [somewhere_passed fun later suffix nonempty =>
      placeHere?_eq_none_iff.2 (passed later suffix nonempty)]
    exact somewhere_of_start (placeHere?_chars n stop)

/-- No place is found exactly if none stands anywhere. -/
theorem somewhere_placeHere?_eq_none_iff :
    somewhere placeHere? cs = none ↔ ∀ m : NamedPlace, ¬ m.chars <:+: cs := by
  constructor
  · rintro nothing m ⟨before, behind, rfl⟩
    rw [List.append_assoc] at nothing
    exact placeHere?_chars_ne_none m behind (none_of_somewhere nothing)
  · intro absent
    cases first : somewhere placeHere? cs with
    | none => rfl
    | some found =>
        obtain ⟨m, ⟨before, behind, rfl, -⟩, -⟩ := somewhere_placeHere?_eq_some_iff.1 first
        exact absurd ⟨before, behind, List.append_assoc ..⟩ (absent m)

section Refusals

variable {words : String} {line column : Nat}

/-- **A refusal has the first place that is named before its end.** -/
theorem firstPlace_of_firstNamed (line_small : line < UInt64.size)
    (column_small : column < UInt64.size) {n : NamedPlace} (first : FirstNamed words.toList n) :
    firstPlace (placed words line column) = n.place := by
  rw [firstPlace_placed words line_small column_small,
    somewhere_placeHere?_eq_some_iff.2 ⟨n, first, rfl⟩, Option.getD_some]

/-- **A refusal has the place at its end if no place is named before.** -/
theorem firstPlace_of_absent (line_small : line < UInt64.size) (column_small : column < UInt64.size)
    (absent : ∀ n : NamedPlace, ¬ n.chars <:+: words.toList) :
    firstPlace (placed words line column) = (line, column) := by
  rw [firstPlace_placed words line_small column_small, somewhere_placeHere?_eq_none_iff.2 absent,
    Option.getD_none]

/-- Words name a place first, or they name none. -/
theorem exists_firstNamed_or_absent (cs : List Char) :
    (∃ n, FirstNamed cs n) ∨ ∀ n : NamedPlace, ¬ n.chars <:+: cs := by
  cases first : somewhere placeHere? cs with
  | none => exact .inr (somewhere_placeHere?_eq_none_iff.1 first)
  | some found =>
      obtain ⟨n, named, -⟩ := somewhere_placeHere?_eq_some_iff.1 first
      exact .inl ⟨n, named⟩

end Refusals

end QueryFlow.Sql
