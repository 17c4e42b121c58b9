import QueryFlow.Proofs.Intent.Recognition

/-!
# An unloading as a warehouse writes it

A warehouse writes the query of an unloading in quotes, so that every quote of the query is doubled,
and so is every quote of the place. Runs of quotes do not lead the reading astray: the query ends at
the first quote that is not doubled, since behind the query there is white space or a bracket, and
so does the place.

The query is what the reader is given, as it was written, and nothing else of the statement is.

## How the proof goes

`UnloadStyle` says how the keywords and the gaps of an unloading are written, `UnloadStyle.chars`
lays a query and the rest of the text out in that style. Reading goes along the fields of the style:
each keyword is read by `Spelling.keyword_append`, each gap is passed over because what follows it
is not blank, and the query is read by `quotedText_of_closed`, whose condition that the rest of the
pattern does not start at a quote holds as the pattern goes on with a gap and a bracket. The place
is left to `place?`, which alone decides whether the text is an unloading.

The converse takes the recogniser apart in the same order. Every part of the pattern that has
matched gives one field of a style, so the text was written in the style that is built from them.
With both directions, the reader of the classifier is handed exactly the query that was quoted.

## Main results

* `warehouseUnload?_chars`: an unloading is read as it was written, however that was.
* `exists_of_warehouseUnload?`: what is read as an unloading was written as one.
* `classify_of_warehouseUnload?`: what an unloading does is read from its query.
* `unloading_reads_back`: all of this of an unloading, by its query and its place.
-/

namespace QueryFlow.Intent

open QueryFlow.Sql QueryFlow.Text

/-- How an unloading is written: its keywords, and the white space between its parts. Only in front
of the place white space is needed. -/
structure UnloadStyle where
  before : Gap
  unload : Spelling "unload"
  afterUnload : Gap
  afterOpening : Gap
  afterQuery : Gap
  afterClosing : Gap
  direction : Spelling "to"
  afterDirection : Gap
  /-- The place is apart from the keyword before it. -/
  apart : afterDirection.chars ≠ []

namespace UnloadStyle

variable (s : UnloadStyle) {query location : String} {cs : List Char}

/-- The characters of an unloading of a query, up to the quote that opens the place, and what stands
behind that. -/
def chars (query : String) (cs : List Char) : List Char :=
  s.before.chars ++ (s.unload.chars ++ (s.afterUnload.chars ++ '(' :: (s.afterOpening.chars
    ++ '\'' :: (quote query.toList ++ '\'' :: (s.afterQuery.chars ++ ')' :: (s.afterClosing.chars
    ++ (s.direction.chars ++ (s.afterDirection.chars ++ '\'' :: cs))))))))

/-- An unloading of a query to a place, with some text behind the quote that closes the place. -/
def text (query location behind : String) : String :=
  String.ofList (s.chars query (quote location.toList ++ '\'' :: behind.toList))

/-- The same without white space in front. -/
def unindented : UnloadStyle := { s with before := .none }

/-- **An unloading is read as it was written**, however that was, up to its place. -/
theorem warehouseUnload?_chars :
    warehouseUnload? (String.ofList (s.chars query cs))
      = (place? cs).map fun location => (query, location) := by
  have closed (rest : List Char) : (s.afterQuery.chars ++ ')' :: rest).head? ≠ some '\'' :=
    s.afterQuery.head?_ne (by decide) (by simp)
  rw [warehouseUnload?, String.toList_ofList (l := s.chars query cs), chars,
    trimStart_append s.before.blank (s.unload.solid rfl (by decide)), s.unload.keyword_append,
    Option.bind_some,
    blanks_passed s.afterUnload.blank (stop_cons (by decide)) fun _ _ =>
      isNext_of_isBlank (by decide),
    isNext_cons,
    blanks_passed s.afterOpening.blank (stop_cons (by decide)) fun _ _ => quotedText_of_isBlank,
    quotedText_of_closed (closed _) fun _ _ => rfl,
    blanks_passed s.afterQuery.blank (stop_cons (by decide)) fun _ _ =>
      isNext_of_isBlank (by decide),
    isNext_cons,
    blanks_passed s.afterClosing.blank (s.direction.solid rfl (by decide)) fun _ _ blank => by
      rw [show "to".toList = ['t', 'o'] from rfl, keyword_of_isBlank (by decide) blank]
      rfl,
    s.direction.keyword_append, Option.bind_some,
    blanks_passed1 s.apart s.afterDirection.blank (stop_cons (by decide)) fun _ _ =>
      quotedText_of_isBlank,
    quotedText_eq_map_place?]

/-- **Trimming an unloading** takes away what stands in front, and white space behind the place. -/
theorem trimChars_chars :
    trimChars (s.chars query cs) = s.unindented.chars query (trimEnd cs) := by
  have split (cs : List Char) : s.unindented.chars query cs
      = (s.unload.chars ++ (s.afterUnload.chars ++ '(' :: (s.afterOpening.chars
        ++ '\'' :: (quote query.toList ++ '\'' :: (s.afterQuery.chars
        ++ ')' :: (s.afterClosing.chars ++ (s.direction.chars
        ++ s.afterDirection.chars))))))) ++ '\'' :: cs := by
    simp [chars, unindented, Gap.none]
  have front : trimStart (s.chars query cs) = s.unindented.chars query cs :=
    trimStart_append s.before.blank (s.unload.solid rfl (by decide))
  rw [trimChars, front, split, trimEnd_append_cons (by decide), split]

end UnloadStyle

variable {text query location : String}

/-- **What is read as an unloading was written as one**: each part of the pattern that matches gives
one part of the style. -/
theorem exists_of_warehouseUnload? (found : warehouseUnload? text = some (query, location)) :
    ∃ (s : UnloadStyle) (cs : List Char), text.toList = s.chars query cs
      ∧ place? cs = some location := by
  obtain ⟨before, indented, blank₀⟩ := exists_trimStart_append text.toList
  obtain ⟨_, started, found₁⟩ := Option.bind_eq_some_iff.1 found
  obtain ⟨unload, letters, starts⟩ := exists_of_keyword (by decide) started
  obtain ⟨b₁, _, rfl, blank₁, found₂⟩ := exists_of_repeated found₁
  obtain ⟨_, rfl, found₃⟩ := isNext_eq_some_iff.1 found₂
  obtain ⟨b₂, _, rfl, blank₂, found₄⟩ := exists_of_repeated found₃
  obtain ⟨read, _, rfl, found₅⟩ := exists_of_quotedText found₄
  obtain ⟨b₃, _, rfl, blank₃, found₆⟩ := exists_of_repeated found₅
  obtain ⟨_, rfl, found₇⟩ := isNext_eq_some_iff.1 found₆
  obtain ⟨b₄, _, rfl, blank₄, found₈⟩ := exists_of_repeated found₇
  obtain ⟨_, directed, found₉⟩ := Option.bind_eq_some_iff.1 found₈
  obtain ⟨direction, letters', rfl⟩ := exists_of_keyword (by decide) directed
  obtain ⟨b₅, _, rfl, apart, blank₅, atPlace⟩ := exists_of_repeated1 found₉
  obtain ⟨place, behind, rfl, -⟩ := exists_of_quotedText atPlace
  rw [quotedText_eq_map_place?, Option.map_eq_some_iff] at atPlace
  obtain ⟨place', here, same⟩ := atPlace
  obtain ⟨rfl, rfl⟩ := Prod.mk.inj same
  refine ⟨⟨⟨before, blank₀⟩, ⟨unload, letters⟩, ⟨b₁, blank₁⟩, ⟨b₂, blank₂⟩, ⟨b₃, blank₃⟩,
    ⟨b₄, blank₄⟩, ⟨direction, letters'⟩, ⟨b₅, blank₅⟩, apart⟩, _, ?_, here⟩
  rw [indented, starts]
  rfl

/-- Of what is read of the query of an unloading the first statement counts, and it must be a query.
-/
theorem classifyUnload_eq (c : Classifier) : c.classifyUnload query location
    = match c.read query with
      | .error fault => .error fault
      | .ok (.query inner :: _) => .ok ⟨[.unload ⟨location, inner.sources⟩]⟩
      | .ok _ => .error (.sqlSyntax (.notAQuery query) 0 0) := by
  rw [Classifier.classifyUnload]
  cases c.read query with
  | error fault => rfl
  | ok statements =>
      cases statements with
      | nil => rfl
      | cons first rest => cases first <;> rfl

/-- **What an unloading does is read from its query**, and from nothing else of the text. -/
theorem classify_of_warehouseUnload? (c : Classifier)
    (found : warehouseUnload? text = some (query, location)) :
    c.classify text = c.classifyUnload query location := by
  obtain ⟨s, cs, written, here⟩ := exists_of_warehouseUnload? found
  have trimmed : trim text = String.ofList (s.unindented.chars query (trimEnd cs)) := by
    rw [trim, written, s.trimChars_chars]
  have unloaded : warehouseUnload? (trim text) = some (query, location) := by
    rw [trimmed, UnloadStyle.warehouseUnload?_chars, place?_trimEnd, here]
    rfl
  have starts : StartsWith "unload" (trim text) :=
    startsWith_of_warehouseUnload? (by simp [unloaded])
  rw [Classifier.classify, Classifier.classifyTrimmed,
    isMaintenanceText_of_startsWith (.inr rfl) starts, warehouseCopy?_of_startsWith starts,
    unloaded]
  rfl

/-- **An unloading is read as it was written**, whatever quotes its query and its place have, if no
other quote follows the place, and nothing else is read as an unloading. The query that was read is
what the reader of the classifier is given, and the first statement of that says what is done. -/
theorem unloading_reads_back (query location : String) :
    (∀ (s : UnloadStyle) (behind : String), behind.toList.head? ≠ some '\'' →
        warehouseUnload? (s.text query location behind) = some (query, location))
      ∧ ∀ text, warehouseUnload? text = some (query, location) →
        (∃ (s : UnloadStyle) (behind : String), text = s.text query location behind)
          ∧ ∀ c : Classifier, c.classify text
            = match c.read query with
              | .error fault => .error fault
              | .ok (.query inner :: _) => .ok ⟨[.unload ⟨location, inner.sources⟩]⟩
              | .ok _ => .error (.sqlSyntax (.notAQuery query) 0 0) := by
  refine ⟨fun s behind closed => ?_, fun text found => ⟨?_, fun c => ?_⟩⟩
  · rw [UnloadStyle.text, s.warehouseUnload?_chars, place?_of_closed closed]
    rfl
  · obtain ⟨s, cs, written, here⟩ := exists_of_warehouseUnload? found
    obtain ⟨behind, rfl⟩ := exists_of_place? here
    refine ⟨s, String.ofList behind, ?_⟩
    rw [UnloadStyle.text, String.toList_ofList, ← written, String.ofList_toList]
  · rw [classify_of_warehouseUnload? c found, classifyUnload_eq]

/-- An unloading whose query has the end of one in its quotes, so that the first quotes that could
close it do not. -/
theorem unloading_reads_back_of_odd_quotes :
    ∃ (text : String) (c : Classifier),
      text = " unLoad\n('select '') to ''x''''' )TO  '''it''s' parallel off"
        ∧ (∀ text, c.read text = .error (.invalidInput (.other text)))
        ∧ warehouseUnload? text = some ("select ') to 'x''", "'it's")
        ∧ (∃ (s : UnloadStyle) (behind : String), text = s.text "select ') to 'x''" "'it's" behind)
        ∧ c.classify text = .error (.invalidInput (.other "select ') to 'x''")) := by
  let style : UnloadStyle :=
    { before := .one
      unload := ⟨"unLoad".toList, by decide⟩
      afterUnload := ⟨['\n'], by decide⟩
      afterOpening := .none
      afterQuery := .one
      afterClosing := .none
      direction := ⟨"TO".toList, by decide⟩
      afterDirection := ⟨[' ', ' '], by decide⟩
      apart := by decide }
  let c : Classifier := ⟨fun text => .error (.invalidInput (.other text)), []⟩
  obtain ⟨read, only⟩ := unloading_reads_back "select ') to 'x''" "'it's"
  have found := read style " parallel off" (by decide)
  have written : style.text "select ') to 'x''" "'it's" " parallel off"
      = " unLoad\n('select '') to ''x''''' )TO  '''it''s' parallel off" := by decide +kernel
  rw [written] at found
  obtain ⟨styled, classified⟩ := only _ found
  exact ⟨_, c, rfl, fun _ => rfl, found, styled, classified c⟩

end QueryFlow.Intent
