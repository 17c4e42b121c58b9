import QueryFlow.Proofs.Toml.Number
import QueryFlow.Proofs.Toml.Text
import QueryFlow.Toml.Document

/-!
# Lines of TOML are read as they were written

A text that was written has two kinds of lines, and empty ones between them: headers, which open a
table, and assignments of plain values to keys. Both are read as the statements that they stand for,
and the rest of the text is left.

## How the proof goes

A line is read part by part. Its key needs no quotes, so it ends at the blank or the bracket behind
it and is a path of its own. Its value is told by its first character: a quote starts a text, a
digit or a minus a number, and a letter a truth value; brackets would start a list or a table, and
no plain value has one in front. Then the line ends, and the next one begins.

`Reads` says which statements a text has, for any fuel that is larger than the text. It is built up
from behind, like the texts that are written: `reads_nil`, one more empty line, one more statement.
What comes before a text thus never changes what is known of it.

## Main results

* `path_bareKey`: a key without quotes is a path of its own.
* `value_writeValue?`: a plain value is read as it was written.
* `statement_header` and `statement_assign`: the two kinds of lines.
* `Reads`: what statements a text has, line by line.
-/

namespace QueryFlow.Toml

open Scan

variable {c : Char} {cs rest : List Char}

/-! ### Keys -/

/-- A key that can be written without quotes: it has characters, and all of them may stand in such a
key. -/
def IsBareKey (k : String) : Prop := k.toList ≠ [] ∧ k.toList.all isKeyChar = true

instance (k : String) : Decidable (IsBareKey k) := inferInstanceAs (Decidable (_ ∧ _))

/-- A character of a key is none that cannot stand in keys. -/
theorem ne_of_isKeyChar {d : Char} (isKey : isKeyChar c = true) (other : isKeyChar d = false) :
    c ≠ d := by
  rintro rfl
  rw [isKey] at other
  cases other

/-- A key has no blanks. -/
theorem isLineBlank_of_isKeyChar (isKey : isKeyChar c = true) : isLineBlank c = false := by
  have space := ne_of_isKeyChar isKey (d := ' ') (by decide)
  have tab := ne_of_isKeyChar isKey (d := '\t') (by decide)
  simp [isLineBlank, space, tab]

/-- A key has a first character. -/
theorem IsBareKey.exists_cons {k : String} (bare : IsBareKey k) :
    ∃ c cs, k.toList = c :: cs ∧ isKeyChar c = true := by
  obtain ⟨c, cs, text⟩ := List.exists_cons_of_ne_nil bare.1
  exact ⟨c, cs, text, List.all_eq_true.1 bare.2 c (by simp [text])⟩

/-- A key without quotes is read up to where it ends. -/
theorem key_bareKey {k : String} (bare : IsBareKey k)
    (ends : ∀ c, rest.head? = some c → isKeyChar c = false) :
    key (k.toList ++ rest) = some (k, rest) := by
  have read : bareKey (k.toList ++ rest) = some (k, rest) := by
    simpa using bareKey_append bare.1 (List.all_eq_true.1 bare.2) ends
  obtain ⟨c, cs, text, isKey⟩ := bare.exists_cons
  have double := ne_of_isKeyChar isKey (d := '"') (by decide)
  have single := ne_of_isKeyChar isKey (d := '\'') (by decide)
  rw [text, List.cons_append] at read ⊢
  simpa [key, bind_apply, double, single] using read

/-- **A key without quotes is a path of its own**, up to blanks and a mark behind it. -/
theorem path_bareKey {k : String} (bare : IsBareKey k) (gap : List Char)
    (blank : ∀ c ∈ gap, isLineBlank c = true)
    (mark : isKeyChar c = false ∧ isLineBlank c = false ∧ c ≠ '.') (rest : List Char) :
    path (k.toList ++ (gap ++ c :: rest)) = some (⟨[], k⟩, c :: rest) := by
  obtain ⟨notKey, notBlank, notPoint⟩ := mark
  have ends : ∀ d, (gap ++ c :: rest).head? = some d → isKeyChar d = false := by
    cases gap with
    | nil => simpa using notKey
    | cons d gap =>
        rintro _ ⟨⟩
        by_contra isKey
        have other := isLineBlank_of_isKeyChar (Bool.not_eq_false _ ▸ isKey)
        rw [blank d List.mem_cons_self] at other
        cases other
  have front : blanks (k.toList ++ (gap ++ c :: rest))
      = some ((), k.toList ++ (gap ++ c :: rest)) := by
    obtain ⟨d, cs, text, isKey⟩ := bare.exists_cons
    rw [text]
    exact blanks_of_head (isLineBlank_of_isKeyChar isKey)
  have behind : blanks (gap ++ c :: rest) = some ((), c :: rest) := blanks_append gap blank notBlank
  have alone : accept '.' (c :: rest) = some (false, c :: rest) := accept_of_ne notPoint
  simp [path, bind_apply, front, key_bareKey bare ends, behind, many, manyUpTo, alone, nestingLimit]

/-! ### Values -/

/-- A value that does not start with a bracket holds no other one. -/
theorem value_eq_plainValue (list : c ≠ '[') (table : c ≠ '\x7b') :
    value (c :: cs) = plainValue (c :: cs) := by
  have step (n : Nat) : valueUpTo (n + 1) (c :: cs) = plainValue (c :: cs) := by
    simp [valueUpTo, bind_apply, list, table]
  exact step 78

/-- A written text starts with a quote. -/
theorem exists_quote_of_write (s : String) :
    ∃ c cs, (Text.write s).toList = c :: cs ∧ (c = '"' ∨ c = '\'') := by
  cases form : Text.formOf s.toList <;> simp [Text.write, form, Text.Form.quotes]

/-- A number starts with a digit or with a minus. -/
theorem exists_digit_of_intText (i : Int) :
    ∃ c cs, (Decimal.intText i).toList = c :: cs ∧ (c.isDigit = true ∨ c = '-') := by
  by_cases below : i < 0
  · exact ⟨'-', Decimal.natDigits i.natAbs, by simp [Decimal.intText, below], .inr rfl⟩
  · obtain ⟨c, cs, digits⟩ := List.exists_cons_of_ne_nil (Decimal.natDigits_ne_nil i.natAbs)
    refine ⟨c, cs, by simp [Decimal.intText, below, digits], .inl ?_⟩
    exact Decimal.isDigit_of_mem_natDigits (by rw [digits]; exact List.mem_cons_self)

/-- A text is read as it was written, also where it stands for a value. -/
theorem value_write (s : String) (rest : List Char) :
    value ((Text.write s).toList ++ '\n' :: rest) = some (.text s, '\n' :: rest) := by
  have read : Text.read ((Text.write s).toList ++ '\n' :: rest) = some (s, '\n' :: rest) :=
    Text.read_write s (by rintro c ⟨⟩; decide)
  obtain ⟨c, cs, text, isQuote⟩ := exists_quote_of_write s
  rw [text, List.cons_append] at read ⊢
  rw [value_eq_plainValue (by rcases isQuote with rfl | rfl <;> decide)
    (by rcases isQuote with rfl | rfl <;> decide)]
  rcases isQuote with rfl | rfl <;> simp [plainValue, bind_apply, read]

/-- A whole number that fits is read as it was written, and not as a date. -/
theorem value_intText {i : Int} (inside : fits i = true) (rest : List Char) :
    value ((Decimal.intText i).toList ++ '\n' :: rest) = some (.integer i, '\n' :: rest) := by
  obtain ⟨noDate, noFloat, read⟩ := number_intText inside rest
  obtain ⟨c, cs, text, starts⟩ := exists_digit_of_intText i
  rw [text, List.cons_append] at noDate noFloat read ⊢
  have other (d : Char) (mark : d.isDigit = false ∧ d ≠ '-') : c ≠ d := by
    rintro rfl
    rcases starts with digit | minus
    · rw [mark.1] at digit
      cases digit
    · exact mark.2 minus
  rw [value_eq_plainValue (other _ (by decide)) (other _ (by decide))]
  simp [plainValue, bind_apply, orElse_apply, other '"' (by decide), other '\'' (by decide),
    other 't' (by decide), other 'f' (by decide), noDate, noFloat, read]

/-- A truth value is read as it was written. -/
theorem value_boolean (b : Bool) (rest : List Char) :
    value ((if b then "true" else "false").toList ++ '\n' :: rest)
      = some (.boolean b, '\n' :: rest) := by
  cases b <;> rfl

/-- The values that have a text are texts, numbers that fit, and truth values. -/
theorem cases_of_writeValue? {v : Value} {text : String}
    (written : Document.writeValue? v = some text) :
    (∃ s, v = .text s ∧ text = Text.write s)
      ∨ (∃ i, v = .integer i ∧ fits i = true ∧ text = Decimal.intText i)
      ∨ ∃ b, v = .boolean b ∧ text = if b then "true" else "false" := by
  cases v with
  | text s => exact .inl ⟨s, rfl, (Option.some.inj written).symm⟩
  | integer i =>
      rw [Document.writeValue?] at written
      split at written
      · next inside => exact .inr (.inl ⟨i, rfl, inside, (Option.some.inj written).symm⟩)
      · cases written
  | boolean b => exact .inr (.inr ⟨b, rfl, (Option.some.inj written).symm⟩)
  | float => cases written
  | date => cases written
  | list items => cases written
  | table fields => cases written

/-- **A plain value is read as it was written.** -/
theorem value_writeValue? {v : Value} {text : String} (written : Document.writeValue? v = some text)
    (rest : List Char) : value (text.toList ++ '\n' :: rest) = some (v, '\n' :: rest) := by
  obtain ⟨s, rfl, rfl⟩ | ⟨i, rfl, inside, rfl⟩ | ⟨b, rfl, rfl⟩ := cases_of_writeValue? written
  · exact value_write s rest
  · exact value_intText inside rest
  · exact value_boolean b rest

/-- What is written of a value starts with something. -/
theorem exists_of_writeValue? {v : Value} {text : String}
    (written : Document.writeValue? v = some text) :
    ∃ c cs, text.toList = c :: cs ∧ isLineBlank c = false := by
  obtain ⟨s, -, rfl⟩ | ⟨i, -, -, rfl⟩ | ⟨b, -, rfl⟩ := cases_of_writeValue? written
  · obtain ⟨c, cs, text, rfl | rfl⟩ := exists_quote_of_write s
    · exact ⟨_, cs, text, by decide⟩
    · exact ⟨_, cs, text, by decide⟩
  · obtain ⟨c, cs, text, digit | rfl⟩ := exists_digit_of_intText i
    · have isKey : isKeyChar c = true := by simp [isKeyChar, Char.isAlphanum, digit]
      exact ⟨c, cs, text, isLineBlank_of_isKeyChar isKey⟩
    · exact ⟨_, cs, text, by decide⟩
  · cases b
    · exact ⟨'f', _, rfl, by decide⟩
    · exact ⟨'t', _, rfl, by decide⟩

/-! ### Lines -/

/-- **A header opens its table.** -/
theorem statement_header {name : String} (bare : IsBareKey name) (rest : List Char) :
    statement ('[' :: (name.toList ++ ']' :: '\n' :: rest)) = some (.table ⟨[], name⟩, rest) := by
  obtain ⟨c, cs, text, isKey⟩ := bare.exists_cons
  have single : accept '[' (name.toList ++ ']' :: '\n' :: rest)
      = some (false, name.toList ++ ']' :: '\n' :: rest) := by
    rw [text]
    exact accept_of_ne (ne_of_isKeyChar isKey (by decide))
  have read : path (name.toList ++ ']' :: '\n' :: rest) = some (⟨[], name⟩, ']' :: '\n' :: rest) :=
    path_bareKey bare [] (by simp) (by decide) _
  simp [statement, bind_apply, single, read, lineEnd_newline]

/-- **An assignment gives its key its value.** -/
theorem statement_assign {k text : String} {v : Value} (bare : IsBareKey k)
    (written : Document.writeValue? v = some text) (rest : List Char) :
    statement (k.toList ++ ' ' :: '=' :: ' ' :: (text.toList ++ '\n' :: rest))
      = some (.assign ⟨[], k⟩ v, rest) := by
  have keyRead : path (k.toList ++ ' ' :: '=' :: ' ' :: (text.toList ++ '\n' :: rest))
      = some (⟨[], k⟩, '=' :: ' ' :: (text.toList ++ '\n' :: rest)) :=
    path_bareKey bare [' '] (by simp [isLineBlank]) (by decide) _
  have valueRead := value_writeValue? written rest
  have space : blanks (' ' :: (text.toList ++ '\n' :: rest))
      = some ((), text.toList ++ '\n' :: rest) := by
    obtain ⟨c, cs, text, solid⟩ := exists_of_writeValue? written
    rw [text]
    exact blanks_append [' '] (by simp [isLineBlank]) solid
  obtain ⟨c, cs, name, isKey⟩ := bare.exists_cons
  have noBracket := ne_of_isKeyChar isKey (d := '[') (by decide)
  rw [name, List.cons_append] at keyRead ⊢
  simp [statement, bind_apply, noBracket, keyRead, space, valueRead, lineEnd_newline]

/-! ### Texts -/

/-- The statements that a text has, as soon as it is read with as many steps as it has characters.
The fuel is quantified, so that one more line needs no other bound. -/
def Reads (cs : List Char) (ss : List Statement) : Prop :=
  ∀ fuel, cs.length < fuel → statementsUpTo fuel cs = some (ss, [])

/-- Nothing stands between statements in front of a character that starts one. -/
theorem between_of_head (other : isLineBlank c = false ∧ c ≠ '#' ∧ c ≠ '\n' ∧ c ≠ '\r') :
    between (c :: cs) = some ((), c :: cs) := by
  obtain ⟨blank, hash, line, mark⟩ := other
  simp [between, many, manyUpTo, bind_apply, blanks_of_head blank, hash, line, mark]

/-- An empty line is passed over between statements. -/
theorem between_newline : between ('\n' :: cs) = between cs := by
  have noBlanks : blanks ('\n' :: cs) = some ((), '\n' :: cs) := blanks_of_head (by decide)
  simp only [between, many, bind_apply, get_apply, Option.bind_some, List.length_cons]
  rw [manyUpTo_of_some (by simp [bind_apply, noBlanks] : _ = some (some (), cs)), Option.bind_map]
  rfl

/-- The empty text has no statements. -/
theorem reads_nil : Reads [] [] := by
  intro fuel enough
  obtain ⟨fuel, rfl⟩ := Nat.exists_eq_add_one_of_ne_zero (Nat.ne_zero_of_lt enough)
  rfl

/-- An empty line adds no statement. -/
theorem Reads.newline {ss : List Statement} (reads : Reads cs ss) : Reads ('\n' :: cs) ss := by
  intro fuel enough
  obtain ⟨fuel, rfl⟩ := Nat.exists_eq_add_one_of_ne_zero (Nat.ne_zero_of_lt enough)
  have same : statementsUpTo (fuel + 1) ('\n' :: cs) = statementsUpTo (fuel + 1) cs := by
    simp only [statementsUpTo, bind_apply, between_newline]
  rw [same]
  exact reads _ (Nat.lt_of_succ_lt enough)

/-- **A text has the statement in front of it, and those of the rest.** -/
theorem Reads.cons {ss : List Statement} {s : Statement} (reads : Reads rest ss)
    (other : isLineBlank c = false ∧ c ≠ '#' ∧ c ≠ '\n' ∧ c ≠ '\r')
    (first : statement (c :: (cs ++ rest)) = some (s, rest)) :
    Reads (c :: (cs ++ rest)) (s :: ss) := by
  intro fuel enough
  obtain ⟨fuel, rfl⟩ := Nat.exists_eq_add_one_of_ne_zero (Nat.ne_zero_of_lt enough)
  have more := reads fuel (by simp at enough; omega)
  simp [statementsUpTo, bind_apply, between_of_head other, atEnd, first, more]

/-- The statements of a text are those that it is read as, if no mark of its byte order is in front.
-/
theorem statements_of_reads {text : String} {ss : List Statement} (reads : Reads text.toList ss)
    (unmarked : text.toList.head? ≠ some '\ufeff') : statements text = some ss := by
  have read := reads (text.toList.length + 1) (Nat.lt_succ_self _)
  unfold statements
  split
  · next rest marked =>
    rw [marked] at unmarked
    exact absurd rfl unmarked
  · simp [read]

end QueryFlow.Toml
