import QueryFlow.Intent.Classifier
import QueryFlow.Proofs.Lists
import QueryFlow.Proofs.Text.Blank
import QueryFlow.Proofs.Text.Matching
import QueryFlow.Proofs.Text.Quoted

/-!
# How recognised statements are written

A statement is recognised by its keywords, with white space between them, and by its texts in
quotes. All of this can be written in many ways: a keyword in any case, a gap with any white space.
So the way in which a statement is written is data of its own here, beside what the statement says.
A `Gap` is a list of blanks with the proof that they are, a `Spelling` of a word a list of
characters with the proof that they spell it; the styles of whole statements are records of these.
What is true of every spelling is then said once, by a lemma on styles, and the patterns of the
recognisers are walked along the fields of a style.

The statements that are recognised end in a place in quotes. What stands behind that place does not
matter, white space least of all: trimming a text may cut off what follows the place, never the
place.

## One way for every text

Each kind of statement starts with a keyword of its own, and none of these keywords is the start of
another one. This is checked once for the list `openings`, which is finite, and gives
`eq_of_startsWith` for every text: if it starts with two of the keywords then they are one. Every
recogniser asks for one of the keywords first, so at most one of them has anything to say of a text
(`pairwise_ways`). A first answer in a list in which at most one member answers does not depend on
the order of the list, and that is `classifyTrimmed_of_perm`.

## Main results

* `place?_of_closed` and `exists_of_place?`: a place is what is written in quotes.
* `place?_trimEnd`: white space behind a place does not matter.
* `eq_of_startsWith`: a text starts with one of the keywords only.
* `classifyTrimmed_of_perm`: the ways to recognise a text can be tried in any order.
-/

namespace QueryFlow.Intent

open QueryFlow.Text

variable {α : Type} {cs rest : List Char} {text : String}

/-! ### Gaps and keywords -/

/-- White space between two parts of a statement, perhaps none. It may be of any kind and length. -/
structure Gap where
  chars : List Char
  blank : chars.all isBlank = true

/-- What does not start behind a gap does not start before it, unless it is white space. -/
theorem Gap.head?_ne (g : Gap) {c : Char} (solid : isBlank c = false)
    (other : rest.head? ≠ some c) : (g.chars ++ rest).head? ≠ some c := by
  intro first
  have blank := g.blank
  cases chars : g.chars with
  | nil => exact other (by simpa [chars] using first)
  | cons d ds =>
      obtain rfl : d = c := by simpa [chars] using first
      simp [chars, solid] at blank

/-- A keyword as it is written, in any case of its letters. -/
structure Spelling (word : String) where
  chars : List Char
  letters : chars.map Char.toLower = word.toList

/-- No white space. -/
def Gap.none : Gap := ⟨[], rfl⟩

/-- One blank. -/
def Gap.one : Gap := ⟨[' '], by decide⟩

namespace Spelling

variable {word : String} (s : Spelling word)

theorem keyword_append (rest : List Char) : keyword word.toList (s.chars ++ rest) = some rest :=
  keyword_of_map_toLower s.letters

/-- **A keyword starts with its first letter**, in whatever case it is written. -/
theorem head?_append {l : Char} {ls : List Char} (starts : word.toList = l :: ls) :
    ∀ c ∈ (s.chars ++ rest).head?, c.toLower = l := by
  have letters := s.letters
  rw [starts, List.map_eq_cons_iff] at letters
  obtain ⟨d, ds, written, lowers, -⟩ := letters
  intro c first
  obtain rfl : d = c := by simpa [written] using first
  exact lowers

/-- A keyword does not start with white space. -/
theorem solid {l : Char} {ls : List Char} (starts : word.toList = l :: ls)
    (letter : isBlank l = false) : ∀ c ∈ (s.chars ++ rest).head?, isBlank c = false := by
  intro c first
  have lowers := s.head?_append starts c first
  rw [← Bool.not_eq_true] at letter ⊢
  exact fun blank => letter (lowers ▸ (toLower_of_isBlank blank).symm ▸ blank)

end Spelling

/-- **A keyword cannot be read from white space.** -/
theorem keyword_of_isBlank {l c : Char} {ls : List Char} (letter : isBlank l = false)
    (blank : isBlank c = true) : keyword (l :: ls) (c :: cs) = none := by
  have other : foldsTo l c = false := by
    rw [← Bool.not_eq_true] at letter ⊢
    simp only [foldsTo, toLower_of_isBlank blank, Bool.or_eq_true, Bool.and_eq_true, beq_iff_eq]
    rintro ((rfl | ⟨-, rfl⟩) | ⟨-, rfl⟩)
    · exact letter blank
    · exact absurd blank (by decide)
    · exact absurd blank (by decide)
  simp [keyword, other]

/-! ### Characters and texts in quotes -/

/-- A character that is asked for is passed over where it stands. -/
theorem isNext_cons {l : Char} {k : List Char → Option α} : isNext l k (l :: cs) = k cs := by
  simp [isNext]

/-- Where a character was asked for and an answer came, the character stands in front of what gave
the answer. -/
theorem isNext_eq_some_iff {l : Char} {k : List Char → Option α} {answer : α} :
    isNext l k cs = some answer ↔ ∃ rest, cs = l :: rest ∧ k rest = some answer := by
  cases cs with
  | nil => simp [isNext]
  | cons c cs =>
      by_cases same : c = l
      · simp [isNext, same]
      · simp [isNext, same]

theorem isNext_of_other {l : Char} {k : List Char → Option α} (other : cs.head? ≠ some l) :
    isNext l k cs = none := by
  cases found : isNext l k cs with
  | none => rfl
  | some answer =>
      obtain ⟨rest, rfl, -⟩ := isNext_eq_some_iff.1 found
      exact absurd rfl other

/-- A solid character cannot be read from white space: so a gap is never taken for what follows it.
-/
theorem isNext_of_isBlank {l c : Char} {k : List Char → Option α} (solid : isBlank l = false)
    (blank : isBlank c = true) : isNext l k (c :: cs) = none := by
  refine isNext_of_other fun first => ?_
  obtain rfl : c = l := Option.some.inj first
  rw [blank] at solid
  cases solid

/-- A text in quotes does not start with white space. -/
theorem quotedText_of_isBlank {c : Char} {k : String → List Char → Option α}
    (blank : isBlank c = true) : quotedText k (c :: cs) = none := by
  rw [quotedText]
  intro rest same
  obtain ⟨rfl, -⟩ := List.cons.inj same
  exact absurd blank (by decide)

/-- **A text in quotes is read as it was written** if the rest of the pattern never starts at a
quote. -/
theorem quotedText_of_closed {t : String} {k : String → List Char → Option α}
    (closed : rest.head? ≠ some '\'') (stuck : ∀ t cs, k t ('\'' :: cs) = none) :
    quotedText k ('\'' :: (quote t.toList ++ '\'' :: rest)) = k t rest := by
  rw [quotedText, quotedBody_of_closed closed fun _ _ => stuck _ _, unquote_quote,
    String.ofList_toList]

/-- What is read in quotes is a text in quotes. -/
theorem exists_of_quotedText {k : String → List Char → Option α} {answer : α}
    (found : quotedText k cs = some answer) :
    ∃ t rest, cs = '\'' :: (quote t.toList ++ '\'' :: rest) ∧ k t rest = some answer := by
  unfold quotedText at found
  split at found
  · next rest =>
    obtain ⟨t, rest, rfl, here⟩ := exists_of_quotedBody found
    rw [unquote_quote] at here
    exact ⟨String.ofList t, rest, by rw [String.toList_ofList], here⟩
  · cases found

/-! ### The place at the end -/

/-- The place in quotes whose opening quote has been passed. It is the last thing that a recogniser
looks at, so whatever stands behind it is let go. -/
def place? : List Char → Option String :=
  quotedBody fun body _ => some (String.ofList (unquote body))

theorem quotedText_eq_map_place? (f : String → α) :
    quotedText (fun location _ => some (f location)) ('\'' :: cs) = (place? cs).map f := by
  rw [place?, ← quotedBody_map]
  rfl

/-- **A place is read as it was written** if no other quote follows the one that closes it. -/
theorem place?_of_closed {location : String} (closed : rest.head? ≠ some '\'') :
    place? (quote location.toList ++ '\'' :: rest) = some location :=
  quotedBody_quote closed (by rw [unquote_quote, String.ofList_toList])

/-- **A place that is read stands there in quotes**, with its own quotes doubled. -/
theorem exists_of_place? {location : String} (found : place? cs = some location) :
    ∃ behind, cs = quote location.toList ++ '\'' :: behind := by
  obtain ⟨t, behind, rfl, here⟩ := exists_of_quotedBody found
  obtain rfl := Option.some.inj here
  exact ⟨behind, by rw [unquote_quote, String.toList_ofList]⟩

/-- **White space behind a place does not matter.** -/
theorem place?_trimEnd (cs : List Char) : place? (trimEnd cs) = place? cs := by
  obtain ⟨blanks, split, blank⟩ := exists_trimEnd_append cs
  have unquoted : '\'' ∉ blanks := fun member =>
    absurd (List.all_eq_true.1 blank _ member) (by decide)
  conv_rhs => rw [split]
  exact (quotedBody_append unquoted fun _ _ => rfl).symm

/-! ### One way for every text -/

/-- The text starts with a keyword behind white space. -/
def StartsWith (word text : String) : Prop :=
  (keyword word.toList (trimStart text.toList)).isSome = true

/-- The keywords that texts are recognised by first, each of them by one recogniser. -/
def openings : List String :=
  ["copy", "unload", "vacuum", "analyze", "padb_fetch_sample:", "fetch", "undoing", "deallocate",
    "close"]

/-- **A text starts with one of the keywords only.** -/
theorem eq_of_startsWith {u v : String} (hu : u ∈ openings) (hv : v ∈ openings)
    (first : StartsWith u text) (second : StartsWith v text) : u = v := by
  have ascii (w : String) (listed : w ∈ openings) : ∀ l ∈ w.toList, l.toNat < 128 := by
    have all : (openings.all fun w => w.toList.all fun l => l.toNat < 128) = true := by
      decide +kernel
    simpa using List.all_eq_true.1 (List.all_eq_true.1 all w listed)
  have apart : ∀ u ∈ openings, ∀ v ∈ openings, u.toList <+: v.toList → u = v := by decide +kernel
  obtain ⟨rest, first⟩ := Option.isSome_iff_exists.1 first
  obtain ⟨rest', second⟩ := Option.isSome_iff_exists.1 second
  rcases prefix_or_prefix_of_keyword (ascii u hu) (ascii v hv) first second with starts | starts
  · exact apart u hu v hv starts
  · exact (apart v hv u hu starts).symm

/-- What is read behind a keyword is read in a text that starts with it. -/
theorem startsWith_of_bind {word : String} {k : List Char → Option α}
    (found : ((keyword word.toList (trimStart text.toList)).bind k).isSome = true) :
    StartsWith word text := by
  rw [StartsWith]
  cases read : keyword word.toList (trimStart text.toList) with
  | none => rw [read] at found; cases found
  | some rest => rfl

/-- What is asked of the rest behind a keyword is asked of a text that starts with it. -/
theorem startsWith_of_any {word : String} {p : List Char → Bool}
    (found : (keyword word.toList (trimStart text.toList)).any p = true) :
    StartsWith word text := by
  rw [StartsWith]
  cases read : keyword word.toList (trimStart text.toList) with
  | none => rw [read] at found; cases found
  | some rest => rfl

/-- What the engine does to keep its store in order starts with one of the other keywords. -/
theorem exists_startsWith_of_isMaintenanceText (found : isMaintenanceText text = true) :
    ∃ word ∈ openings, word ≠ "copy" ∧ word ≠ "unload" ∧ StartsWith word text := by
  simp only [isMaintenanceText, isMaintenanceHere, Bool.or_eq_true] at found
  rcases found with (((((vacuum | analyze) | sample) | fetch) | undoing) | deallocate) | close
  · exact ⟨"vacuum", by decide, by decide, by decide, startsWith_of_any vacuum⟩
  · exact ⟨"analyze", by decide, by decide, by decide, startsWith_of_any analyze⟩
  · exact ⟨"padb_fetch_sample:", by decide, by decide, by decide, sample⟩
  · exact ⟨"fetch", by decide, by decide, by decide, startsWith_of_any fetch⟩
  · exact ⟨"undoing", by decide, by decide, by decide, startsWith_of_bind undoing⟩
  · exact ⟨"deallocate", by decide, by decide, by decide, startsWith_of_any deallocate⟩
  · exact ⟨"close", by decide, by decide, by decide, startsWith_of_any close⟩

theorem startsWith_of_warehouseCopy? (found : (warehouseCopy? text).isSome = true) :
    StartsWith "copy" text :=
  startsWith_of_bind found

theorem startsWith_of_warehouseUnload? (found : (warehouseUnload? text).isSome = true) :
    StartsWith "unload" text :=
  startsWith_of_bind found

/-- A text that starts with `copy` or `unload` is no note of the engine. -/
theorem isMaintenanceText_of_startsWith {word : String} (listed : word = "copy" ∨ word = "unload")
    (starts : StartsWith word text) : isMaintenanceText text = false := by
  rw [← Bool.not_eq_true]
  intro note
  obtain ⟨other, member, notCopy, notUnload, starts'⟩ := exists_startsWith_of_isMaintenanceText note
  rcases listed with rfl | rfl
  · exact notCopy (eq_of_startsWith member (by decide) starts' starts)
  · exact notUnload (eq_of_startsWith member (by decide) starts' starts)

/-- A text that starts with `unload` is no copy. -/
theorem warehouseCopy?_of_startsWith (starts : StartsWith "unload" text) :
    warehouseCopy? text = none := by
  rw [← Option.not_isSome_iff_eq_none]
  intro found
  have same := eq_of_startsWith (by decide) (by decide) starts (startsWith_of_warehouseCopy? found)
  exact absurd same (by decide)

/-! ### The ways to recognise a text -/

/-- A text is understood without the grammar: as a note of the engine, or as a warehouse writes its
copies and unloadings. -/
def Recognised (text : String) : Prop :=
  isMaintenanceText text = true ∨ (warehouseCopy? text).isSome = true
    ∨ (warehouseUnload? text).isSome = true

instance (text : String) : Decidable (Recognised text) := inferInstanceAs (Decidable (_ ∨ _ ∨ _))

/-- A text is not recognised if each of the three recognisers refuses it. -/
theorem not_recognised_iff {text : String} :
    ¬ Recognised text ↔ isMaintenanceText text = false ∧ warehouseCopy? text = none
      ∧ warehouseUnload? text = none := by
  simp [Recognised]

namespace Classifier

variable (c : Classifier)

/-- What comes of a note of the engine: upkeep, whatever it says. -/
def noted? (text : String) : Option (Except Fault Classification) :=
  if isMaintenanceText text then some (.ok .maintenance) else none

/-- What comes of a copy as a warehouse writes it: the copy, whatever the classifier is. -/
def copied? (text : String) : Option (Except Fault Classification) :=
  (warehouseCopy? text).map fun copy => .ok ⟨[.copy copy]⟩

/-- What comes of an unloading as a warehouse writes it: what its query reads, or the fault of that.
-/
def unloaded? (text : String) : Option (Except Fault Classification) :=
  (warehouseUnload? text).map fun (query, location) => c.classifyUnload query location

/-- The ways to recognise a text, in the order in which they are tried. -/
def ways : List (String → Option (Except Fault Classification)) := [noted?, copied?, c.unloaded?]

/-- **The first way to recognise a text counts**, and else what is read. -/
theorem classifyTrimmed_eq_findSome? (text : String) :
    c.classifyTrimmed text = (c.ways.findSome? (· text)).getD (c.classifyParsed text) := by
  simp only [classifyTrimmed, ways, noted?, copied?, unloaded?, List.findSome?_cons,
    List.findSome?_nil]
  by_cases note : isMaintenanceText text = true
  · simp [note]
  · cases warehouseCopy? text with
    | some copy => simp [note]
    | none => cases warehouseUnload? text <;> simp [note]

/-- **A text is recognised in one way at most**: of any two ways one has no answer, as their texts
start with different keywords. -/
theorem pairwise_ways (text : String) :
    c.ways.Pairwise fun way way' => way text = none ∨ way' text = none := by
  have noted {word : String} (listed : word = "copy" ∨ word = "unload")
      (starts : StartsWith word text) : noted? text = none := by
    simp [noted?, isMaintenanceText_of_startsWith listed starts]
  cases unload : warehouseUnload? text with
  | some found =>
      have starts : StartsWith "unload" text := startsWith_of_warehouseUnload? (by simp [unload])
      have copied : copied? text = none := by simp [copied?, warehouseCopy?_of_startsWith starts]
      simp [ways, noted (.inr rfl) starts, copied]
  | none =>
      have unloaded : c.unloaded? text = none := by simp [unloaded?, unload]
      cases copy : warehouseCopy? text with
      | some found =>
          have starts : StartsWith "copy" text := startsWith_of_warehouseCopy? (by simp [copy])
          simp [ways, noted (.inl rfl) starts, unloaded]
      | none =>
          have copied : copied? text = none := by simp [copied?, copy]
          simp [ways, copied, unloaded]

/-- **The ways to recognise a text can be tried in any order**, as at most one of them has an
answer. -/
theorem classifyTrimmed_of_perm {order : List (String → Option (Except Fault Classification))}
    (perm : order.Perm c.ways) (text : String) :
    c.classifyTrimmed text = (order.findSome? (· text)).getD (c.classifyParsed text) := by
  rw [classifyTrimmed_eq_findSome?, findSome?_perm perm.symm (c.pairwise_ways text)]

end Classifier

end QueryFlow.Intent
