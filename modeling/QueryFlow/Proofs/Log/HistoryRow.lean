import QueryFlow.Log.HistoryRow
import QueryFlow.Proofs.Json.Written
import QueryFlow.Proofs.Lists
import QueryFlow.Text.Blank

/-!
# Rows of a history are read as they were written

A row is written as an object that has each of its fields once, in any order; the database may be
left out if it is empty, and the mark of an aborted query if it is not set. The keys and the texts
are written in any of the ways that texts are written in, and white space may stand between any two
parts.

## The ways to write a row

They are given as a relation, `Writes`, from the inside out: the value of a field, a field with its
key, some fields with commas between them, and the object. The relation says nothing about the
reader. A row is `MadeOf` some fields if these are fields of the row, none of them twice, and only
such as may be left out are missing.

## What the reader has found

The reader keeps the fields that it has found. Behind each of them it has found exactly those that
stand in front (`Draft.Holds`). This is the invariant of the induction over the fields, and gives
what the next round needs: no field of the same key has been found, because a row has one field of
each key and no field stands there twice, so the field is not taken for a repetition. Behind the
last field the draft holds all fields of the row but for those with a default, and is finished as
the row (`Draft.Holds.finish`).

One round of the reader is stated for a field behind a comma and for the first one alike, by what
stands in front of its key (`lead`).

## One way to write it

`written` writes all fields in order and without white space. That it is one of the ways shows that
there is one for every row whose identifiers are integers of 64 bits, and no control character
occurs in it, so that a row written so stands on one line.

## Main results

* `afterKey_of_writes`: a field is read as it was written.
* `fields_of_writes`: so are the fields of an object.
* `read_of_writes`: **a row is read as it was written**.
* `writes_written`: one way to write it.
-/

namespace QueryFlow.Log.HistoryRow

open QueryFlow.Json QueryFlow.Decimal

variable {d : Draft} {row : HistoryRow} {rest : List Char}

/-! ### Fields -/

/-- A field of a row, with the value that it has there: a key and a value at once, so that a list of
fields says what is written and in which order. -/
inductive Field
  | userId (id : Int)
  | queryId (id : Int)
  | startTime (time : String)
  | endTime (time : String)
  | database (name : String)
  | aborted (mark : Bool)
  | query (text : String)
deriving DecidableEq

namespace Field

/-- The key of a field, as a row writes it. -/
def key : Field → String
  | .userId _ => "user_id"
  | .queryId _ => "query_id"
  | .startTime _ => "start_time"
  | .endTime _ => "end_time"
  | .database _ => "database"
  | .aborted _ => "aborted"
  | .query _ => "query"

/-- The field may be left out: it has the value that a missing field of its key is taken to have. -/
def IsDefault (f : Field) : Prop := f = .database "" ∨ f = .aborted false

end Field

/-- The fields of a row, in the order in which they are listed. A row may have them written in any
other order. -/
def content (row : HistoryRow) : List Field :=
  [.userId row.userId, .queryId row.queryId, .startTime row.startTime, .endTime row.endTime,
    .database row.database, .aborted row.aborted, .query row.query]

/-- The fields of the row, in any order and without some of those that may be left out. -/
structure MadeOf (row : HistoryRow) (fs : List Field) : Prop where
  once : fs.Nodup
  within : ∀ f ∈ fs, f ∈ row.content
  complete : ∀ f ∈ row.content, f ∈ fs ∨ f.IsDefault

/-- A row has one field of each key. -/
theorem eq_of_key {f g : Field} (mine : f ∈ row.content) (other : g ∈ row.content)
    (same : f.key = g.key) : f = g := by
  simp only [content, List.mem_cons, List.not_mem_nil, or_false] at mine other
  rcases mine with rfl | rfl | rfl | rfl | rfl | rfl | rfl <;>
    rcases other with rfl | rfl | rfl | rfl | rfl | rfl | rfl <;>
    first | rfl | exact absurd same (by simp [Field.key])

/-! ### Written rows -/

/-- A signed integer of 64 bits. Identifiers beyond these are refused. -/
def IsWord (i : Int) : Prop := -9223372036854775808 ≤ i ∧ i ≤ 9223372036854775807

namespace Field

/-- The text is a value between quotes, with its characters spelled in any of the ways there are. -/
def WritesText (s : String) (value : List Char) : Prop :=
  ∃ written, Spells written s.toList ∧ value = '"' :: (written ++ ['"'])

/-- The ways to write the value of a field: numbers and marks in one way, and texts in any spelling.
-/
def WritesValue : Field → List Char → Prop
  | .userId id, value => IsWord id ∧ value = (toString id).toList
  | .queryId id, value => IsWord id ∧ value = (toString id).toList
  | .startTime time, value => WritesText time value
  | .endTime time, value => WritesText time value
  | .database name, value => WritesText name value
  | .aborted mark, value => value = (toString mark).toList
  | .query text, value => WritesText text value

/-- The ways to write a field: its key and its value, with white space around them. -/
def Writes (f : Field) (text : List Char) : Prop :=
  ∃ front key behind ahead value back, Spells key f.key.toList ∧ f.WritesValue value
    ∧ (∀ c ∈ front ++ behind ++ ahead ++ back, isGap c = true)
    ∧ text = front ++ '"' :: (key ++ '"' :: (behind ++ ':' :: (ahead ++ value ++ back)))

end Field

/-- The ways to write some fields, with commas between them and in the order of the list. -/
inductive WritesFields : List Field → List Char → Prop
  | last {f : Field} {text : List Char} (here : f.Writes text) : WritesFields [f] text
  | cons {f : Field} {fs : List Field} {text more : List Char} (here : f.Writes text)
      (others : WritesFields fs more) : WritesFields (f :: fs) (text ++ ',' :: more)

/-- The ways to write a row. -/
def Writes (row : HistoryRow) (text : String) : Prop :=
  ∃ fs front inner back, row.MadeOf fs ∧ WritesFields fs inner
    ∧ (∀ c ∈ front ++ back, isGap c = true)
    ∧ text.toList = front ++ '\x7b' :: (inner ++ '\x7d' :: back)

/-! ### Values -/

/-- White space and a comma or bracket do not go on with a number. -/
theorem ends_gap_append {gap : List Char} (blank : ∀ c ∈ gap, isGap c = true) {mark : Char}
    (other : mark = ',' ∨ mark = '\x7d') : Ends (gap ++ mark :: rest) := by
  cases gap with
  | nil => exact ends_cons (by rcases other with rfl | rfl <;> decide)
  | cons c gap =>
      refine ends_cons ?_
      rcases eq_of_isGap (blank c List.mem_cons_self) with rfl | rfl | rfl | rfl <;> decide

theorem textValue_append {gap written : List Char} (blank : ∀ c ∈ gap, isGap c = true) {s : String}
    (spells : Spells written s.toList) (rest : List Char) :
    textValue (gap ++ '"' :: (written ++ '"' :: rest)) = .ok (s, rest) := by
  rw [textValue, skipGap_append blank, skipGap_of_head (by decide)]
  exact string_of_spells spells rest

theorem boolValue_append {gap : List Char} (blank : ∀ c ∈ gap, isGap c = true) (b : Bool)
    (rest : List Char) : boolValue (gap ++ (toString b).toList ++ rest) = .ok (b, rest) := by
  rw [boolValue, List.append_assoc, skipGap_append blank]
  cases b <;> rfl

section Integer

variable {gap cs : List Char} {c : Char} {n : Nat} (blank : ∀ c ∈ gap, isGap c = true)
  (solid : isGap c = false) (starts : (c == '-' || c.isDigit) = true)

include blank solid starts

theorem integerValue_of_natural (read : number (c :: cs) = .ok (.natural n, rest))
    (small : n ≤ integerLimit) : integerValue (gap ++ c :: cs) = .ok ((n : Int), rest) := by
  rw [integerValue, skipGap_append blank, skipGap_of_head solid]
  simp only [starts, if_true, read, Nat.not_lt.2 small, if_false]

theorem integerValue_of_negative (read : number (c :: cs) = .ok (.negative n, rest)) :
    integerValue (gap ++ c :: cs) = .ok (-(n : Int), rest) := by
  rw [integerValue, skipGap_append blank, skipGap_of_head solid]
  simp only [starts, if_true, read]

end Integer

theorem integerValue_append {gap : List Char} (blank : ∀ c ∈ gap, isGap c = true) {i : Int}
    (word : IsWord i) (ends : Ends rest) :
    integerValue (gap ++ (toString i).toList ++ rest) = .ok (i, rest) := by
  obtain ⟨low, high⟩ := word
  rw [List.append_assoc, ← intText_eq_toString, intText]
  by_cases negative : i < 0
  · have same : -(i.natAbs : Int) = i := by omega
    have read := number_minus (n := i.natAbs) (by omega) (by omega) ends
    have value := integerValue_of_negative blank (by decide) (by decide) read
    rw [same] at value
    rw [if_pos negative, String.toList_append, String.toList_ofList, String.toList_ofList]
    exact value
  · have same : (i.natAbs : Int) = i := by omega
    have read := number_natDigits (n := i.natAbs) (by unfold wordLimit; omega) ends
    rw [if_neg negative, String.empty_append, String.toList_ofList]
    obtain ⟨c, digits, written, numeric⟩ := exists_natDigits_cons i.natAbs
    have digit := numeric c List.mem_cons_self
    rw [written, List.cons_append] at read
    have value := integerValue_of_natural blank (isGap_of_isDigit digit)
      (by rw [digit, Bool.or_true]) read (by unfold integerLimit; omega)
    rwa [written, ← same]

/-! ### Fields found -/

namespace Draft

/-- The field is found, with the value that it has in the list. -/
def Has (d : Draft) : Field → Prop
  | .userId id => d.userId = some id
  | .queryId id => d.queryId = some id
  | .startTime time => d.startTime = some time
  | .endTime time => d.endTime = some time
  | .database name => d.database = some name
  | .aborted mark => d.aborted = some mark
  | .query text => d.query = some text

/-- A field is found with the others. Whatever was found under its key before is forgotten. -/
def put (d : Draft) : Field → Draft
  | .userId id => { d with userId := some id }
  | .queryId id => { d with queryId := some id }
  | .startTime time => { d with startTime := some time }
  | .endTime time => { d with endTime := some time }
  | .database name => { d with database := some name }
  | .aborted mark => { d with aborted := some mark }
  | .query text => { d with query := some text }

/-- Found are the field put last and those of other keys that were found before. -/
theorem has_put {f g : Field} : (d.put g).Has f ↔ f = g ∨ f.key ≠ g.key ∧ d.Has f := by
  cases f <;> cases g <;> simp [put, Has, Field.key, eq_comm]

/-- Exactly these fields are found: the invariant of the reader. -/
def Holds (d : Draft) (found : List Field) : Prop := ∀ f, d.Has f ↔ f ∈ found

/-- At first no field is found. -/
theorem holds_nil : Draft.none.Holds [] := by
  intro f
  cases f <;> simp [none, Has]

/-- **Each of the fields of a row is found for the first time**, and is found then with those in
front of it. The first part is what keeps the reader from refusing the field as a repeated one. -/
theorem Holds.put {found fs : List Field} {f : Field} (holds : d.Holds found)
    (made : row.MadeOf (found ++ f :: fs)) :
    (∀ g : Field, g.key = f.key → ¬ d.Has g) ∧ (d.put f).Holds (found ++ [f]) := by
  have fresh (g : Field) (same : g.key = f.key) : ¬ d.Has g := by
    intro has
    have member := (holds g).1 has
    have mine := made.within f (by simp)
    obtain rfl := eq_of_key (made.within g (by simp [member])) mine same
    exact (List.nodup_append.1 made.once).2.2 g member g List.mem_cons_self rfl
  refine ⟨fresh, fun g => ?_⟩
  rw [has_put, List.mem_append, List.mem_singleton, ← holds g]
  constructor
  · rintro (rfl | ⟨-, has⟩)
    · exact .inr rfl
    · exact .inl has
  · rintro (has | rfl)
    · exact .inr ⟨fun same => fresh g same has, has⟩
    · exact .inl rfl

/-- **The row is complete behind its fields.** -/
theorem Holds.finish {fs : List Field} (found : d.Holds fs) (made : row.MadeOf fs) :
    d.finish = .ok row := by
  have must {f : Field} (part : f ∈ row.content) (due : ¬ f.IsDefault) : d.Has f :=
    (found f).2 ((made.complete f part).resolve_right due)
  have userId : d.userId = some row.userId :=
    must (f := .userId _) (by simp [content]) (by simp [Field.IsDefault])
  have queryId : d.queryId = some row.queryId :=
    must (f := .queryId _) (by simp [content]) (by simp [Field.IsDefault])
  have startTime : d.startTime = some row.startTime :=
    must (f := .startTime _) (by simp [content]) (by simp [Field.IsDefault])
  have endTime : d.endTime = some row.endTime :=
    must (f := .endTime _) (by simp [content]) (by simp [Field.IsDefault])
  have query : d.query = some row.query :=
    must (f := .query _) (by simp [content]) (by simp [Field.IsDefault])
  -- what may be left out is found, or is what it is taken for
  have may {f g : Field} (part : f ∈ row.content) (other : d.Has g) (same : g.key = f.key) :
      g = f := eq_of_key (made.within g ((found g).1 other)) part same
  have lacks {f : Field} (part : f ∈ row.content) (missing : ¬ d.Has f) : f.IsDefault :=
    (made.complete f part).resolve_left fun member => missing ((found f).2 member)
  have database : d.database.getD "" = row.database := by
    have part : Field.database row.database ∈ row.content := by simp [content]
    cases known : d.database with
    | none =>
        have default := lacks part (by simp [Has, known])
        simp only [Field.IsDefault, Field.database.injEq, reduceCtorEq, or_false] at default
        simp [default]
    | some name => simpa using may (g := .database name) part known rfl
  have aborted : d.aborted.getD false = row.aborted := by
    have part : Field.aborted row.aborted ∈ row.content := by simp [content]
    cases known : d.aborted with
    | none =>
        have default := lacks part (by simp [Has, known])
        simp only [Field.IsDefault, Field.aborted.injEq, reduceCtorEq, false_or] at default
        simp [default]
    | some mark => simpa using may (g := .aborted mark) part known rfl
  simp [Draft.finish, need, bind, Except.bind, userId, queryId, startTime, endTime, query, database,
    aborted]

end Draft

/-- A field that is not yet found is read with the colon in front of its value. -/
theorem field_append {α : Type} {key : String} {value : Scan α} {put : α → Draft} {x : α}
    {behind cs : List Char} (blank : ∀ c ∈ behind, isGap c = true)
    (read : value cs = .ok (x, rest)) :
    field key none value put (behind ++ ':' :: cs) = .ok (put x, rest) := by
  have found : colon (behind ++ ':' :: cs) = .ok cs := by
    rw [colon, skipGap_append blank, skipGap_of_head (by decide)]
    rfl
  simp [field, found, read]

/-- **A field is read as it was written**, if it has not been found before. -/
theorem afterKey_of_writes {f : Field} (fresh : ∀ g : Field, g.key = f.key → ¬ d.Has g)
    {behind ahead value : List Char} (blank : ∀ c ∈ behind, isGap c = true)
    (blank' : ∀ c ∈ ahead, isGap c = true) (writes : f.WritesValue value) (ends : Ends rest) :
    afterKey d f.key (behind ++ ':' :: (ahead ++ value ++ rest)) = .ok (d.put f, rest) := by
  have missing {α : Type} {known : Option α} (make : α → Field)
      (keys : ∀ x, (make x).key = f.key) (has : ∀ x, known = some x → d.Has (make x)) :
      known = none :=
    Option.eq_none_iff_forall_ne_some.2 fun x found => fresh (make x) (keys x) (has x found)
  have text {s : String} (writes : Field.WritesText s value) :
      textValue (ahead ++ value ++ rest) = .ok (s, rest) := by
    obtain ⟨written, spells, rfl⟩ := writes
    simpa using textValue_append blank' spells rest
  cases f with
  | userId id =>
      obtain ⟨word, rfl⟩ := writes
      have known : d.userId = none := missing .userId (fun _ => rfl) (fun _ h => h)
      simp only [afterKey, Field.key, known, String.reduceBEq, Bool.false_eq_true, if_true,
        if_false]
      exact field_append blank (integerValue_append blank' word ends)
  | queryId id =>
      obtain ⟨word, rfl⟩ := writes
      have known : d.queryId = none := missing .queryId (fun _ => rfl) (fun _ h => h)
      simp only [afterKey, Field.key, known, String.reduceBEq, Bool.false_eq_true, if_true,
        if_false]
      exact field_append blank (integerValue_append blank' word ends)
  | startTime time =>
      have known : d.startTime = none := missing .startTime (fun _ => rfl) (fun _ h => h)
      simp only [afterKey, Field.key, known, String.reduceBEq, Bool.false_eq_true, if_true,
        if_false]
      exact field_append blank (text writes)
  | endTime time =>
      have known : d.endTime = none := missing .endTime (fun _ => rfl) (fun _ h => h)
      simp only [afterKey, Field.key, known, String.reduceBEq, Bool.false_eq_true, if_true,
        if_false]
      exact field_append blank (text writes)
  | database name =>
      have known : d.database = none := missing .database (fun _ => rfl) (fun _ h => h)
      simp only [afterKey, Field.key, known, String.reduceBEq, Bool.false_eq_true, if_true,
        if_false]
      exact field_append blank (text writes)
  | aborted mark =>
      obtain rfl := writes
      have known : d.aborted = none := missing .aborted (fun _ => rfl) (fun _ h => h)
      simp only [afterKey, Field.key, known, String.reduceBEq, Bool.false_eq_true, if_true,
        if_false]
      exact field_append blank (boolValue_append blank' mark rest)
  | query time =>
      have known : d.query = none := missing .query (fun _ => rfl) (fun _ h => h)
      simp only [afterKey, Field.key, known, String.reduceBEq, Bool.false_eq_true, if_true,
        if_false]
      exact field_append blank (text writes)

/-! ### Objects -/

/-- What stands in front of a key, apart from white space: a comma, if another field does. -/
def lead (first : Bool) : List Char := if first then [] else [',']

theorem nextKey?_lead (first : Bool) {gap : List Char} (blank : ∀ c ∈ gap, isGap c = true)
    (cs : List Char) :
    nextKey? first (lead first ++ (gap ++ '"' :: cs)) = .ok (some cs) := by
  have behind : skipGap (gap ++ '"' :: cs) = '"' :: cs := by
    rw [skipGap_append blank, skipGap_of_head (by decide)]
  cases first with
  | true => simp [nextKey?, lead, behind]
  | false => simp [nextKey?, lead, behind, skipGap_of_head, isGap]

/-- White space in front of a comma or of the end of the object is passed over. -/
theorem fields_gap_append {fuel : Nat} {first : Bool} {gap : List Char}
    (blank : ∀ c ∈ gap, isGap c = true) (cs : List Char) :
    fields (fuel + 1) first d (gap ++ cs) = fields (fuel + 1) first d cs := by
  simp only [fields, nextKey?, leave, skipGap_append blank]

/-- The end of the object is the end of the row. -/
theorem fields_of_end {fuel : Nat} {first : Bool} (finish : d.finish = .ok row) :
    fields (fuel + 1) first d ('\x7d' :: rest) = .ok (row, rest) := by
  have stays : skipGap ('\x7d' :: rest) = '\x7d' :: rest := skipGap_of_head (by decide)
  simp [fields, nextKey?, leave, stays, finish]

/-- One round of the reader: a field is found with the others. -/
theorem fields_of_field {fuel : Nat} {first : Bool} {f : Field} {text : List Char}
    (fresh : ∀ g : Field, g.key = f.key → ¬ d.Has g) (writes : f.Writes text) {mark : Char}
    (marked : mark = ',' ∨ mark = '\x7d') :
    fields (fuel + 2) first d (lead first ++ (text ++ mark :: rest))
      = fields (fuel + 1) false (d.put f) (mark :: rest) := by
  obtain ⟨front, key, behind, ahead, value, back, spells, holds, blank, rfl⟩ := writes
  simp only [List.mem_append, or_imp, forall_and] at blank
  obtain ⟨⟨⟨inFront, behindKey⟩, inAhead⟩, inBack⟩ := blank
  have next := nextKey?_lead first inFront
    (key ++ '"' :: (behind ++ ':' :: (ahead ++ value ++ (back ++ mark :: rest))))
  have read := string_of_spells spells
    (behind ++ ':' :: (ahead ++ value ++ (back ++ mark :: rest)))
  have ends : Ends (back ++ mark :: rest) := ends_gap_append inBack marked
  have found := afterKey_of_writes fresh behindKey inAhead holds ends
  simp only [List.append_assoc, List.cons_append] at next read found ⊢
  rw [fields, next]
  simp only [read, found]
  exact fields_gap_append inBack _

/-- **The fields of an object are read as they were written**, if those in front of them are found
and all of them make the row. The induction is on the way in which they are written. -/
theorem fields_of_writes {fs found : List Field} {inner : List Char}
    (writes : WritesFields fs inner) (made : row.MadeOf (found ++ fs)) (holds : d.Holds found)
    {fuel : Nat} (enough : fs.length < fuel) (first : Bool) :
    fields fuel first d (lead first ++ (inner ++ '\x7d' :: rest)) = .ok (row, rest) := by
  induction writes generalizing d found fuel first with
  | last here =>
      obtain ⟨fresh, holds⟩ := holds.put made
      obtain ⟨fuel, rfl⟩ : ∃ n, fuel = n + 2 := ⟨fuel - 2, by simp at enough; omega⟩
      rw [fields_of_field fresh here (.inr rfl)]
      exact fields_of_end (holds.finish made)
  | cons here others ih =>
      obtain ⟨fresh, holds⟩ := holds.put made
      obtain ⟨fuel, rfl⟩ : ∃ n, fuel = n + 2 := ⟨fuel - 2, by simp at enough; omega⟩
      rw [List.append_assoc, List.cons_append, fields_of_field fresh here (.inl rfl)]
      exact ih (by rwa [List.append_assoc]) holds (by simp at enough; omega) false

/-- At least one character is written for a field. -/
theorem length_le_of_writes {fs : List Field} {inner : List Char} (writes : WritesFields fs inner) :
    fs.length ≤ inner.length := by
  have some {f : Field} {text : List Char} (here : f.Writes text) : 1 ≤ text.length := by
    obtain ⟨_, _, _, _, _, _, -, -, -, rfl⟩ := here
    simp only [List.length_append, List.length_cons]
    omega
  induction writes with
  | last here => exact some here
  | cons here _ ih =>
      have := some here
      simp only [List.length_append, List.length_cons]
      omega

/-- **A row is read as it was written.** -/
theorem read_of_writes {text : String} (writes : row.Writes text) : read text = .ok row := by
  obtain ⟨fs, front, inner, back, made, parts, blank, whole⟩ := writes
  simp only [List.mem_append, or_imp, forall_and] at blank
  obtain ⟨inFront, inBack⟩ := blank
  have enough : fs.length < (inner ++ '\x7d' :: back).length + 1 := by
    have := length_le_of_writes parts
    rw [List.length_append]
    omega
  have inside : fields ((inner ++ '\x7d' :: back).length + 1) true .none
      (inner ++ '\x7d' :: back) = .ok (row, back) :=
    fields_of_writes parts (show row.MadeOf ([] ++ fs) from made) Draft.holds_nil enough true
  have ended : skipGap back = [] := by simpa [skipGap] using skipGap_append inBack []
  rw [read, whole, value, skipGap_append inFront, skipGap_of_head (by decide)]
  simp only [inside, ended]

/-- A line that a row is written on is not blank. -/
theorem isBlankText_of_writes {text : String} (writes : row.Writes text) :
    Text.isBlankText text = false := by
  obtain ⟨_, front, inner, back, -, -, -, whole⟩ := writes
  have member : '\x7b' ∈ text.toList := by simp [whole]
  exact List.all_eq_false.2 ⟨_, member, by decide⟩

/-! ### One way to write a row -/

namespace Field

/-- The value of a field, as it may be written. -/
def valueText : Field → List Char
  | .userId id => (toString id).toList
  | .queryId id => (toString id).toList
  | .startTime time => (quotedText time).toList
  | .endTime time => (quotedText time).toList
  | .database name => (quotedText name).toList
  | .aborted mark => (toString mark).toList
  | .query text => (quotedText text).toList

/-- A field, as it may be written. -/
def text (f : Field) : List Char := (quotedText f.key).toList ++ ':' :: f.valueText

end Field

/-- A row, as it may be written on a line. -/
def written (row : HistoryRow) : String :=
  String.ofList ('\x7b' :: (List.intercalate [','] (row.content.map Field.text) ++ ['\x7d']))

/-- The identifiers of a row are integers of 64 bits. Only such rows have a text that is read. -/
def InWords (row : HistoryRow) : Prop := IsWord row.userId ∧ IsWord row.queryId

theorem toList_quotedText (s : String) :
    (quotedText s).toList = '"' :: (s.toList.flatMap escapedChar ++ ['"']) := by
  simp [quotedText]

theorem madeOf_content (row : HistoryRow) : row.MadeOf row.content where
  once := by simp [content]
  within := fun _ member => member
  complete := fun _ member => .inl member

/-- The value of a field is written by a text for it. -/
theorem writesValue_valueText (words : row.InWords) {f : Field} (part : f ∈ row.content) :
    f.WritesValue f.valueText := by
  have text (s : String) : Field.WritesText s (quotedText s).toList :=
    ⟨_, spells_escapedChar s.toList, toList_quotedText s⟩
  simp only [content, List.mem_cons, List.not_mem_nil, or_false] at part
  rcases part with rfl | rfl | rfl | rfl | rfl | rfl | rfl
  · exact ⟨words.1, rfl⟩
  · exact ⟨words.2, rfl⟩
  · exact text _
  · exact text _
  · exact text _
  · rfl
  · exact text _

theorem writes_text {f : Field} (value : f.WritesValue f.valueText) : f.Writes f.text :=
  ⟨[], _, [], [], _, [], spells_escapedChar f.key.toList, value, by simp,
    by simp [Field.text, toList_quotedText]⟩

theorem writesFields_intercalate {f : Field} {fs : List Field}
    (values : ∀ g ∈ f :: fs, g.WritesValue g.valueText) :
    WritesFields (f :: fs) (List.intercalate [','] ((f :: fs).map Field.text)) := by
  induction fs generalizing f with
  | nil => simpa using WritesFields.last (writes_text (values f List.mem_cons_self))
  | cons g fs ih =>
      have others := ih fun h member => values h (List.mem_cons_of_mem f member)
      have all := others.cons (writes_text (values f List.mem_cons_self))
      rwa [List.map_cons, List.map_cons, List.intercalate_cons_cons, List.append_assoc]

/-- **A row is written by the text for it.** -/
theorem writes_written (words : row.InWords) : row.Writes row.written :=
  ⟨row.content, [], _, [], madeOf_content row,
    writesFields_intercalate fun _ part => writesValue_valueText words part, by simp,
    String.toList_ofList⟩

/-- No control character is written in a value. -/
theorem visible_of_writesValue {f : Field} {value : List Char} (writes : f.WritesValue value)
    {c : Char} (member : c ∈ value) : 32 ≤ c.toNat := by
  have number {i : Int} (member : c ∈ (toString i).toList) : 32 ≤ c.toNat := by
    rw [← intText_eq_toString, intText, String.toList_append, String.toList_ofList,
      List.mem_append] at member
    rcases member with sign | digit
    · split at sign
      · obtain rfl : c = '-' := by simpa using sign
        decide
      · simp at sign
    · exact visible_of (p := fun c => c.isDigit = true) (by decide) (isDigit_of_mem_natDigits digit)
  have text {s : String} (writes : Field.WritesText s value) : 32 ≤ c.toNat := by
    obtain ⟨written, spells, rfl⟩ := writes
    simp only [List.mem_cons, List.mem_append, List.not_mem_nil, or_false] at member
    rcases member with rfl | member | rfl
    · decide
    · exact visible_of_spells spells c member
    · decide
  cases f with
  | userId id | queryId id => exact number (writes.2 ▸ member)
  | startTime time | endTime time | database time | query time => exact text writes
  | aborted mark =>
      have all : (toString mark).toList.all (fun c => 32 ≤ c.toNat) = true := by
        cases mark <;> rfl
      obtain rfl := writes
      exact of_decide_eq_true (List.all_eq_true.1 all c member)

/-- **No control character is written in the text for a row**, so that it stands on one line. -/
theorem visible_written (words : row.InWords) : ∀ c ∈ row.written.toList, 32 ≤ c.toNat := by
  have field {f : Field} (part : f ∈ row.content) : ∀ c ∈ f.text, 32 ≤ c.toNat := by
    have key := visible_of_spells (spells_escapedChar f.key.toList)
    have value := fun c => visible_of_writesValue (c := c) (writesValue_valueText words part)
    simp only [Field.text, toList_quotedText, List.forall_mem_append, List.forall_mem_cons,
      List.not_mem_nil, false_imp_iff, implies_true, and_true]
    exact ⟨⟨by decide, key, by decide⟩, by decide, value⟩
  have inner : ∀ c ∈ List.intercalate [','] (row.content.map Field.text), 32 ≤ c.toNat :=
    forall_mem_intercalate (List.forall_mem_singleton.2 (by decide))
      (List.forall_mem_map.2 fun f => field)
  simp only [written, String.toList_ofList, List.forall_mem_append, List.forall_mem_cons,
    List.not_mem_nil, false_imp_iff, implies_true, and_true]
  exact ⟨by decide, inner, by decide⟩

end QueryFlow.Log.HistoryRow
