import QueryFlow.Proofs.Intent.Recognition
import QueryFlow.Proofs.Outcome
import QueryFlow.Proofs.Sql.Place

/-!
# What is refused with a syntax fault

A statement that cannot be understood is left out of a batch, where any other fault would end the
work. A classifier adds no faults of other kinds to those of its reader, and the readers of the
dialects have none: so no text ends the work. A reader with this property is called *lenient*.

A syntax fault has the place that the words of the refusal name first. This is the place at the end
of the words, where the refusal was met, unless the lexeme that is quoted before it spells a place
as well: then the fault has the quoted one.

## How the proof goes

The words of a refusal are a reason and, behind it, the place at which the lexer or the grammar
stopped. The place of the fault is looked up again in these words, by a search that is not tied to
their end. `Proofs.Sql.Place` says what the search finds in words of this form. Here it is carried
through the classifier: `Asked` says which part of a text the reader is given, the quoted query of
an unloading or else the trimmed text, and `classify_of_refused` that the fault of the reader is
that of the classifier. `Refuses` collects what is known of the place: the first one that the reason
names, the one at the end if the reason names none, and exactly when the two agree.

The text `quotedPlace` is one where they do not: the lexeme that does not fit reads like a place.

## Main results

* `lenient_readStatements`: the readers of the dialects refuse texts with syntax faults only.
* `isSyntax_of_classify`: and so do the classifiers with such readers.
* `places_of_refusals`: the place that a syntax fault has.
* `not_place_of_refusal`: it need not be the one at the end.
-/

namespace QueryFlow.Intent

open QueryFlow.Sql QueryFlow.Text

/-- A reader refuses texts with syntax faults only, so a batch can go on without the text. -/
def Lenient (read : String → Except Fault (List Statement)) : Prop :=
  ∀ text fault, read text = .error fault → fault.isSyntax = true

/-- **The reader of a dialect refuses texts with syntax faults only.** -/
theorem lenient_readStatements (d : Dialect) : Lenient (readStatements d) := by
  intro text fault refused
  unfold readStatements at refused
  split at refused
  · injection refused with same
    subst same
    rfl
  · cases refused

/-- **A classifier refuses texts with syntax faults only**, if its reader does. -/
theorem isSyntax_of_classify {c : Classifier} (lenient : Lenient c.read) {text : String}
    {fault : Fault} (refused : c.classify text = .error fault) : fault.isSyntax = true := by
  unfold Classifier.classify Classifier.classifyTrimmed at refused
  split at refused
  · cases refused
  split at refused
  · cases refused
  split at refused
  all_goals
    rcases bind_eq_error_iff.1 refused with unread | ⟨statements, -, refused⟩
    · exact lenient _ _ unread
    · split at refused
      · cases refused
      · rw [← Except.error.inj refused]
        rfl

/-! ### The places of refusals -/

/-- What a reader is given of a text: the query that is unloaded, or the whole text. -/
structure Asked (text asked : String) : Prop where
  /-- The text is no note of the engine. -/
  not_maintenance : isMaintenanceText (trim text) = false
  /-- The text is no copy as a warehouse writes it. -/
  not_copy : warehouseCopy? (trim text) = none
  /-- The text is an unloading of what is asked, or it is what is asked. -/
  part : (∃ location, warehouseUnload? (trim text) = some (asked, location))
    ∨ warehouseUnload? (trim text) = none ∧ trim text = asked

/-- All of a text is read if it is not recognised. -/
theorem asked_of_not_recognised {text : String} (unknown : ¬ Recognised (trim text)) :
    Asked text (trim text) := by
  rw [not_recognised_iff] at unknown
  exact ⟨unknown.1, unknown.2.1, .inr ⟨unknown.2.2, rfl⟩⟩

namespace Classifier

variable {c : Classifier} {text asked : String}

/-- A classifier refuses a text as its reader refuses what it is given of it. -/
theorem classify_of_refused {fault : Fault} (asks : Asked text asked)
    (refused : c.read asked = .error fault) : c.classify text = .error fault := by
  have plain : ¬ isMaintenanceText (trim text) = true := by simp [asks.not_maintenance]
  rw [classify, classifyTrimmed, if_neg plain, asks.not_copy]
  rcases asks.part with ⟨location, unload⟩ | ⟨noUnload, rfl⟩
  · simp only [unload, classifyUnload, refused]
    rfl
  · simp only [noUnload, classifyParsed, refused]
    rfl

/-- A text is refused in these words, with the first place that is quoted in them or else the one
at their end. -/
def Refuses (c : Classifier) (text words : String) (line column : Nat) : Prop :=
  ∃ l k, c.classify text = .error (.sqlSyntax (.refused (placed words line column)) l k)
    ∧ (∀ n, FirstNamed words.toList n → (l, k) = n.place)
    ∧ ((∀ n : NamedPlace, ¬ n.chars <:+: words.toList) → (l, k) = (line, column))
    ∧ ((l, k) = (line, column) ↔ ∀ n, FirstNamed words.toList n → n.place = (line, column))

/-- A text is refused as its reader refuses it in words with a place at their end. Lines and columns
must fit the numbers that faults have. -/
theorem refuses_of_read {words : String} {line column : Nat} (asks : Asked text asked)
    (line_small : line < UInt64.size) (column_small : column < UInt64.size)
    (refused : c.read asked = .error (syntaxFault (placed words line column))) :
    c.Refuses text words line column := by
  rw [syntaxFault_eq] at refused
  have named : ∀ n, FirstNamed words.toList n → firstPlace (placed words line column) = n.place :=
    fun _ first => firstPlace_of_firstNamed line_small column_small first
  have ending := @firstPlace_of_absent words line column line_small column_small
  refine ⟨_, _, classify_of_refused asks refused, named, ending, fun here n first => ?_,
    fun same => ?_⟩
  · exact (named n first).symm.trans here
  · rcases exists_firstNamed_or_absent words.toList with ⟨n, first⟩ | absent
    · exact (named n first).trans (same n first)
    · exact ending absent

/-- The readers of the dialects refuse a text in the words of the grammar. -/
theorem read_of_readText {d : Dialect} {reject : Reject} (reads : c.read = readStatements d)
    (refused : readText d asked = .error reject) :
    c.read asked = .error (syntaxFault reject.words) := by
  rw [reads, readStatements, refused]

/-- **A syntax fault has the place that the words of the refusal name first**: for any reader that
refuses a text in words with a place at their end, and so for the readers of the dialects. -/
theorem places_of_refusals (asks : Asked text asked) :
    (∀ words line column, line < UInt64.size → column < UInt64.size →
      c.read asked = .error (syntaxFault (placed words line column)) →
      c.Refuses text words line column)
    ∧ ∀ d reason place, c.read = readStatements d →
      readText d asked = .error (.refused reason (some place)) →
      place.line < UInt64.size → place.column < UInt64.size →
      c.Refuses text ("sql parser error: " ++ reason) place.line place.column := by
  refine ⟨fun words line column => refuses_of_read asks, ?_⟩
  intro d reason place reads refused line_small column_small
  exact refuses_of_read asks line_small column_small (read_of_readText reads refused)

/-- A text whose quoted lexeme reads like a place. -/
def quotedPlace : String := "drop 'Line: 7, Column: 9'"

/-- Why that text is refused. -/
def quotedPlaceReason : String :=
  "Expected: an object type after DROP, found: 'Line: 7, Column: 9'"

/-- The whole of that text is read: no recogniser knows it. -/
theorem asked_quotedPlace : Asked quotedPlace quotedPlace := by
  have trimmed : trim quotedPlace = quotedPlace := by decide +kernel
  have asks : Asked quotedPlace (trim quotedPlace) := asked_of_not_recognised (by decide +kernel)
  rwa [trimmed] at asks

/-- The grammar refuses that text at its second word, and quotes the word. -/
theorem readText_quotedPlace :
    readText .redshift quotedPlace = .error (.refused quotedPlaceReason (some ⟨1, 6⟩)) :=
  failure?_eq_some_iff.1 (by decide +kernel)

/-- A refusal keeps its place if the lexeme names none. -/
theorem places_of_two_refusals :
    (withReader (readStatements .redshift)).Refuses quotedPlace
      ("sql parser error: " ++ quotedPlaceReason) 1 6
    ∧ ∃ reason, (withReader (readStatements .redshift)).Refuses "drop 'it'"
      ("sql parser error: " ++ reason) 1 6 := by
  have trimmed : trim "drop 'it'" = "drop 'it'" := by decide +kernel
  have asks : Asked "drop 'it'" (trim "drop 'it'") := asked_of_not_recognised (by decide +kernel)
  rw [trimmed] at asks
  have read : readText .redshift "drop 'it'"
      = .error (.refused "Expected: an object type after DROP, found: 'it'" (some ⟨1, 6⟩)) :=
    failure?_eq_some_iff.1 (by decide +kernel)
  constructor
  · exact (places_of_refusals asked_quotedPlace).2 .redshift quotedPlaceReason ⟨1, 6⟩ rfl
      readText_quotedPlace (by decide) (by decide)
  · exact ⟨_, (places_of_refusals asks).2 .redshift _ ⟨1, 6⟩ rfl read (by decide) (by decide)⟩

/-- **The place of a syntax fault need not be the one at which the text was refused**: the quoted
lexeme names line 7 and column 9. -/
theorem not_place_of_refusal :
    ¬ ∀ (d : Dialect) (text reason : String) (place : Position), Asked text text →
      place.line < UInt64.size → place.column < UInt64.size →
      readText d text = .error (.refused reason (some place)) →
      (withReader (readStatements d)).classify text
        = .error (.sqlSyntax (.refused (placed ("sql parser error: " ++ reason) place.line
            place.column)) place.line place.column) := by
  intro always
  have claimed := always .redshift quotedPlace quotedPlaceReason ⟨1, 6⟩ asked_quotedPlace
    (by decide) (by decide) readText_quotedPlace
  rw [classify_of_refused asked_quotedPlace (read_of_readText rfl readText_quotedPlace),
    syntaxFault_eq] at claimed
  have named : (firstPlace (Reject.refused quotedPlaceReason (some ⟨1, 6⟩)).words).1 = 7 := by
    decide +kernel
  exact absurd (named.symm.trans (Fault.sqlSyntax.inj (Except.error.inj claimed)).2.1) (by decide)

end Classifier

end QueryFlow.Intent
