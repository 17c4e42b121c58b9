import QueryFlow.Proofs.Intent.Recognition

/-!
# A copy as a warehouse writes it

A warehouse writes a copy with the place in quotes, perhaps with the columns of the table in
brackets, and with options of its own behind the place. Such a statement is recognised by its text,
so no reader is asked about it. The table and the place are read as they were written, whatever
stands in the columns and the options: the name of the table is the longest run of its characters,
so that a name may end in a keyword or be one, the columns end at the first closing bracket, and the
place ends at the first quote that is not doubled.

## How the proof goes

`CopyStyle` says how the keywords, the columns and the gaps of a copy are written. The reading goes
along its fields from the end: `copyOrigin_eq` reads the keyword before the place and the place,
`columnsAndOrigin_eq` passes over the columns, and `warehouseCopy?_chars` reads the table in front
of them. The pattern for the table gives characters back if what follows cannot be read, and would
then see another table. It never comes to that: what stands behind the table is no character of a
name (`isTableChar_tail`), so the longest run is the name, and with it the rest is read.

The text is trimmed before it is recognised. In front nothing but the first gap is lost, and behind
at most the end of the options, since the quote that closes the place is solid; `trimChars_chars`
says so, and turns the trimmed text into one in the same style without its first gap.

## Main results

* `warehouseCopy?_chars`: the table and the place are read as they were written.
* `trimChars_chars`: trimming a copy takes away at most the end of its options.
* `classify_chars`: what a copy does, whatever the classifier is.
* `copy_recognised_apart`: the same, and notes and unloadings are no copies.
-/

namespace QueryFlow.Intent

open QueryFlow.Sql QueryFlow.Text

/-! ### How a copy is written -/

/-- The columns of a copy, between brackets, and the white space behind them. They are skipped up to
the first closing bracket, so they have none. -/
structure Columns where
  chars : List Char
  unclosed : ')' ∉ chars
  after : Gap

/-- The columns of a copy, if there are any, and what stands behind them. -/
def Columns.before : Option Columns → List Char → List Char
  | none, rest => rest
  | some columns, rest => '(' :: (columns.chars ++ ')' :: (columns.after.chars ++ rest))

/-- How a copy is written: its keywords, its columns, and the white space between its parts. -/
structure CopyStyle where
  before : Gap
  copy : Spelling "copy"
  afterCopy : Gap
  afterTable : Gap
  columns : Option Columns
  origin : Spelling "from"
  afterOrigin : Gap
  /-- The table is apart from the keyword before it. -/
  table_apart : afterCopy.chars ≠ []
  /-- The second keyword is apart from the table before it. -/
  origin_apart : columns = none → afterTable.chars ≠ []
  /-- The place is apart from the keyword before it. -/
  place_apart : afterOrigin.chars ≠ []

/-- What a copy into a table from a place does: one context, and no more is asked. -/
def copied (table location : String) : Classification :=
  ⟨[.copy ⟨.inward, .singleton (normalize table), location⟩]⟩

/-- No character of the name of a table is blank. -/
theorem isBlank_of_isTableChar {c : Char} (char : isTableChar c = true) : isBlank c = false := by
  rw [← Bool.not_eq_true]
  intro blank
  simp only [isTableChar, isWord_of_isBlank blank, Bool.false_or, Bool.or_eq_true,
    beq_iff_eq] at char
  rcases char with (rfl | rfl) | rfl <;> exact absurd blank (by decide)

namespace CopyStyle

variable (s : CopyStyle) {table location : String} {cs rest : List Char}

/-- The characters of a copy behind its table, up to the quote that opens the place, and what stands
behind that. -/
def tail (cs : List Char) : List Char :=
  s.afterTable.chars ++ Columns.before s.columns
    (s.origin.chars ++ (s.afterOrigin.chars ++ '\'' :: cs))

/-- The characters of a copy into a table, up to the quote that opens the place, and what stands
behind that. -/
def chars (table : String) (cs : List Char) : List Char :=
  s.before.chars ++ (s.copy.chars ++ (s.afterCopy.chars ++ (table.toList ++ s.tail cs)))

/-- A copy into a table from a place, with some text behind the quote that closes the place. -/
def text (table location behind : String) : String :=
  String.ofList (s.chars table (quote location.toList ++ '\'' :: behind.toList))

/-- The same without white space in front. -/
def unindented : CopyStyle := { s with before := .none }

/-! ### Recognition -/

/-- The place of a copy is read as it was written, behind its keyword and the gap. -/
theorem copyOrigin_eq :
    copyOrigin (s.origin.chars ++ (s.afterOrigin.chars ++ '\'' :: cs)) = place? cs := by
  rw [copyOrigin, s.origin.keyword_append, Option.bind_some,
    blanks_passed1 s.place_apart s.afterOrigin.blank (stop_cons (by decide)) fun _ _ =>
      quotedText_of_isBlank,
    quotedText_eq_map_place?, Option.map_id_fun', id]

/-- **The columns of a copy are passed over**, whatever they are. There are two cases: with columns
the bracket is read, and without them it is missed. -/
theorem columnsAndOrigin_eq (here : place? cs = some location) :
    (let cs := Columns.before s.columns (s.origin.chars ++ (s.afterOrigin.chars ++ '\'' :: cs))
     columnsAndOrigin cs <|> copyOrigin cs) = some location := by
  cases s.columns with
  | none =>
      have outside : columnsAndOrigin (s.origin.chars ++ (s.afterOrigin.chars ++ '\'' :: cs))
          = none := by
        refine isNext_of_other fun first => ?_
        exact absurd (s.origin.head?_append rfl '(' first) (by decide)
      simp only [Columns.before, outside, s.copyOrigin_eq, here]
      rfl
  | some columns =>
      have inside : columnsAndOrigin (Columns.before (some columns)
          (s.origin.chars ++ (s.afterOrigin.chars ++ '\'' :: cs))) = some location := by
        rw [columnsAndOrigin, Columns.before, isNext_cons]
        refine repeated_longest columns.chars ?_ (stop_cons (by decide)) ?_
        · simpa using fun c member => ne_of_mem_of_not_mem member columns.unclosed
        · rw [isNext_cons]
          refine blanks_skipped _ columns.after.blank (s.origin.solid rfl (by decide)) ?_
          rw [s.copyOrigin_eq, here]
      simp only [inside]
      rfl

/-- Behind the table of a copy stands no character of its name: a blank, or the bracket of the
columns. -/
theorem isTableChar_tail : ∀ c ∈ (s.tail cs).head?, isTableChar c = false := by
  intro c first
  have blank := s.afterTable.blank
  unfold tail at first
  cases gap : s.afterTable.chars with
  | cons d ds =>
      obtain rfl : d = c := by simpa [gap] using first
      rw [← Bool.not_eq_true]
      intro char
      simp [gap, isBlank_of_isTableChar char] at blank
  | nil =>
      cases listed : s.columns with
      | none => exact absurd gap (s.origin_apart listed)
      | some columns =>
          obtain rfl : '(' = c := by simpa [gap, listed, Columns.before] using first
          decide

/-- **The table and the place of a copy are read as they were written**, however that was. -/
theorem warehouseCopy?_chars (named : table ≠ "")
    (chars : ∀ c ∈ table.toList, isTableChar c = true) (here : place? cs = some location) :
    warehouseCopy? (String.ofList (s.chars table cs))
      = some ⟨.inward, .singleton (normalize table), location⟩ := by
  have nonempty : table.toList ≠ [] := by simpa using named
  rw [warehouseCopy?, String.toList_ofList (l := s.chars table cs), CopyStyle.chars,
    trimStart_append s.before.blank (s.copy.solid rfl (by decide)), s.copy.keyword_append,
    Option.bind_some]
  refine blanks_skipped1 _ s.table_apart s.afterCopy.blank (fun c first => ?_) ?_
  · rw [List.head?_append_of_ne_nil _ nonempty] at first
    exact isBlank_of_isTableChar (chars c (List.mem_of_head? first))
  refine repeated1_longest table.toList nonempty chars s.isTableChar_tail ?_
  refine blanks_skipped _ s.afterTable.blank ?_ ?_
  · cases s.columns with
    | none => exact s.origin.solid rfl (by decide)
    | some columns => exact stop_cons (by decide)
  · have read := s.columnsAndOrigin_eq here
    simp only at read
    simp only [read, Option.map_some, String.ofList_toList]

/-! ### Classification -/

/-- **Trimming a copy** takes away what stands in front, and at most the end of what stands behind
the place. -/
theorem trimChars_chars :
    trimChars (s.chars table cs) = s.unindented.chars table (trimEnd cs) := by
  have split (cs : List Char) : s.unindented.chars table cs
      = (s.copy.chars ++ (s.afterCopy.chars ++ (table.toList ++ (s.afterTable.chars
        ++ Columns.before s.columns (s.origin.chars ++ s.afterOrigin.chars))))) ++ '\'' :: cs := by
    cases listed : s.columns <;> simp [chars, tail, unindented, Gap.none, listed, Columns.before]
  have front : trimStart (s.chars table cs) = s.unindented.chars table cs :=
    trimStart_append s.before.blank (s.copy.solid rfl (by decide))
  rw [trimChars, front, split, trimEnd_append_cons (by decide), split]

/-- **What a copy does is read from its text**, whatever the classifier is: its reader is not asked.
-/
theorem classify_chars (c : Classifier) (named : table ≠ "")
    (chars : ∀ c ∈ table.toList, isTableChar c = true) (here : place? cs = some location) :
    c.classify (String.ofList (s.chars table cs)) = .ok (copied table location) := by
  have trimmed : trim (String.ofList (s.chars table cs))
      = String.ofList (s.unindented.chars table (trimEnd cs)) := by
    rw [trim, String.toList_ofList, trimChars_chars]
  have read := s.unindented.warehouseCopy?_chars named chars ((place?_trimEnd cs).trans here)
  have starts := startsWith_of_warehouseCopy? (by rw [read]; rfl)
  rw [Classifier.classify, trimmed, Classifier.classifyTrimmed,
    isMaintenanceText_of_startsWith (.inl rfl) starts, read]
  rfl

end CopyStyle

/-! ### The plain style -/

/-- A copy into a table from a place, with a blank and options behind it if there are any. -/
def copyStatement (table location : String) (options : Option String) : String :=
  "copy " ++ table ++ " from '" ++ String.ofList (quote location.toList) ++ "'"
    ++ (options.map (" " ++ ·)).getD ""

/-- The characters of a copy with some text behind the quote that closes the place. -/
def copyText (table location : String) (behind : List Char) : List Char :=
  "copy".toList ++ ([' '] ++ (table.toList ++ ([' '] ++ ("from".toList ++ ([' '] ++
    '\'' :: (quote location.toList ++ '\'' :: behind))))))

/-- One blank between the parts, and no columns. -/
def CopyStyle.plain : CopyStyle where
  before := .none
  copy := ⟨"copy".toList, by decide⟩
  afterCopy := .one
  afterTable := .one
  columns := none
  origin := ⟨"from".toList, by decide⟩
  afterOrigin := .one
  table_apart := by decide
  origin_apart := fun _ => by decide
  place_apart := by decide

variable {table location : String} {options : Option String}

/-- A copy in plain style, character by character. -/
theorem toList_copyStatement : (copyStatement table location options).toList
    = copyText table location (options.elim [] fun o => ' ' :: o.toList) := by
  cases options <;> simp [copyStatement, copyText]

/-- **What a copy in plain style does** is read from its text. -/
theorem classify_copyStatement (c : Classifier) (named : table ≠ "")
    (chars : ∀ c ∈ table.toList, isTableChar c = true) :
    c.classify (copyStatement table location options) = .ok (copied table location) := by
  have plain : copyStatement table location options
      = String.ofList (CopyStyle.plain.chars table
        (quote location.toList ++ '\'' :: options.elim [] fun o => ' ' :: o.toList)) := by
    rw [← String.ofList_toList (s := copyStatement table location options), toList_copyStatement]
    rfl
  rw [plain]
  exact CopyStyle.plain.classify_chars c named chars
    (place?_of_closed (by cases options <;> simp))

/-! ### Copies among other texts -/

/-- **A copy is recognised however it is written**, without the reader of the classifier. Notes of
the engine and unloadings are no copies, so the ways to recognise a text can be tried in any order.
-/
theorem copy_recognised_apart (c : Classifier) :
    (∀ (s : CopyStyle) (table location behind : String), table ≠ "" →
        (∀ c ∈ table.toList, isTableChar c = true) → behind.toList.head? ≠ some '\'' →
        c.classify (s.text table location behind)
          = .ok ⟨[.copy ⟨.inward, .singleton (normalize table), location⟩]⟩)
      ∧ (∀ text, isMaintenanceText text = true ∨ (warehouseUnload? text).isSome = true →
        warehouseCopy? text = none)
      ∧ ∀ order : List (String → Option (Except Fault Classification)), order.Perm c.ways →
        ∀ text, c.classifyTrimmed text
          = (order.findSome? (· text)).getD (c.classifyParsed text) := by
  refine ⟨fun s table location behind named chars closed => ?_, ?_, fun order perm text => ?_⟩
  · exact s.classify_chars c named chars (place?_of_closed closed)
  · rintro text (note | unload)
    · rw [← Option.not_isSome_iff_eq_none]
      intro copy
      rw [isMaintenanceText_of_startsWith (.inl rfl) (startsWith_of_warehouseCopy? copy)] at note
      cases note
    · exact warehouseCopy?_of_startsWith (startsWith_of_warehouseUnload? unload)
  · exact c.classifyTrimmed_of_perm perm text

/-- A copy into a table whose name ends in a keyword, with another place among its columns. -/
theorem copy_recognised_of_odd_names :
    ∃ (read : String → Except Fault (List Statement)) (c : Classifier),
      c = ⟨read, Predicate.standard⟩ ∧ (∀ text, read text = .error (.invalidInput (.other text)))
        ∧ c.classify "COPY \"My\".from(a, from 'x' b)From\t's3://it''s' credentials 'k'"
          = .ok ⟨[.copy ⟨.inward, .singleton "my.from", "s3://it's"⟩]⟩
        ∧ isMaintenanceText "vacuum copy" = true ∧ warehouseCopy? "vacuum copy" = none
        ∧ [c.unloaded?, Classifier.copied?, Classifier.noted?].Perm c.ways
        ∧ c.classifyTrimmed "vacuum copy"
          = ([c.unloaded?, Classifier.copied?, Classifier.noted?].findSome? (· "vacuum copy")).getD
            (c.classifyParsed "vacuum copy") := by
  let read (text : String) : Except Fault (List Statement) := .error (.invalidInput (.other text))
  let c : Classifier := ⟨read, Predicate.standard⟩
  let style : CopyStyle :=
    { before := .none
      copy := ⟨"COPY".toList, by decide⟩
      afterCopy := .one
      afterTable := .none
      columns := some ⟨"a, from 'x' b".toList, by decide, .none⟩
      origin := ⟨"From".toList, by decide⟩
      afterOrigin := ⟨['\t'], by decide⟩
      table_apart := by decide
      origin_apart := fun none => nomatch none
      place_apart := by decide }
  obtain ⟨recognised, apart, ordered⟩ := copy_recognised_apart c
  have written : style.text "\"My\".from" "s3://it's" " credentials 'k'"
      = "COPY \"My\".from(a, from 'x' b)From\t's3://it''s' credentials 'k'" := by decide +kernel
  have name : normalize "\"My\".from" = "my.from" := by decide +kernel
  have copy := recognised style "\"My\".from" "s3://it's" " credentials 'k'" (by decide)
    (List.all_eq_true.1 (by decide +kernel)) (by decide)
  have note : isMaintenanceText "vacuum copy" = true := by decide +kernel
  have reversed : [c.unloaded?, Classifier.copied?, Classifier.noted?].Perm c.ways :=
    List.reverse_perm c.ways
  rw [written, name] at copy
  exact ⟨read, c, rfl, fun _ => rfl, copy, note, apart _ (.inl note), reversed,
    ordered _ reversed _⟩

end QueryFlow.Intent
