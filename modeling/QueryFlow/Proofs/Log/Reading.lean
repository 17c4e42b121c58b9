import QueryFlow.Proofs.Log.Form
import QueryFlow.Proofs.Outcome

/-!
# Reading a slow log

Reading a transcript gives what there is to read in it, however its lines end.

## Where a cursor stands

A cursor *stands* in front of some lines if these are the line that was put back, if there is one,
and those that are ahead. The two states of a cursor that stand in front of the same lines cannot be
told apart by taking lines, and this is all that is used of a cursor: the line in front of it can be
taken, and can be put back, after which it stands where it stood (`Stands.exists_take`). So putting
a line back never loses or repeats it, and never loses count.

## Level by level

Each level of the grammar takes the lines of its own part of a transcript, and stands in front of
those behind it. The statements have one shape: if a cursor stands in front of the lines of a part
and of some others, the part is read as what it holds, and there is a cursor behind it that stands
in front of the others. They are put together by obtaining one cursor after the other, in the order
of the lines. The records of a section are an induction on its blocks and the sections one on the
sections; each level has to be told that the line behind its part does not belong to it, which for a
record is that the line names no caller.

## Main results

* `exists_readRecord`, `exists_readRecords`: a block is read as its entry, and blocks are read one
  after the other.
* `readSections_eq`: sections are read as the entries of their blocks.
* `read_transcript`: a transcript is read as what there is to read in it.
-/

namespace QueryFlow.Log

/-! ### Where a cursor stands -/

namespace Cursor

/-- A cursor has so many lines behind it, and some in front of it. A line that was put back has its
line end taken off, the lines ahead lose theirs when they are taken. -/
structure Stands (c : Cursor) (behind : Nat) (lines : List String) : Prop where
  number : c.number = behind
  lines : c.held.toList.map some ++ c.ahead.map (Option.map trimLineEnd) = lines.map some

variable {c : Cursor} {n : Nat} {line : String} {lines : List String}

/-- **The line in front of a cursor is taken, and can be put back.** -/
theorem Stands.exists_take (stands : c.Stands n (line :: lines)) :
    ∃ c₁ c₂, c.take = .ok (some line, c₁) ∧ c₁.Stands (n + 1) lines
      ∧ c₁.putBack line = .ok c₂ ∧ c₂.Stands n (line :: lines) := by
  obtain ⟨ahead, held, number⟩ := c
  obtain ⟨rfl, front⟩ := stands
  have back (rest : List PhysicalLine)
      (same : rest.map (Option.map trimLineEnd) = lines.map some) :
      (⟨rest, none, number + 1⟩ : Cursor).Stands (number + 1) lines
        ∧ (⟨rest, none, number + 1⟩ : Cursor).putBack line = .ok ⟨rest, some line, number⟩
        ∧ (⟨rest, some line, number⟩ : Cursor).Stands number (line :: lines) :=
    ⟨⟨rfl, by simpa using same⟩, rfl, ⟨rfl, by simpa using same⟩⟩
  cases held with
  | some waiting =>
      obtain ⟨rfl, same⟩ : waiting = line ∧ _ := by simpa using front
      exact ⟨⟨ahead, none, number + 1⟩, ⟨ahead, some waiting, number⟩, rfl, back ahead same⟩
  | none =>
      cases ahead with
      | nil => simp at front
      | cons first rest =>
          cases first with
          | none => simp at front
          | some text =>
              obtain ⟨rfl, same⟩ : trimLineEnd text = line ∧ _ := by simpa using front
              exact ⟨⟨rest, none, number + 1⟩, _, rfl, back rest same⟩

/-- At the end no line is taken. -/
theorem Stands.take_nil (stands : c.Stands n []) : c.take = .ok (none, c) := by
  obtain ⟨ahead, held, number⟩ := c
  obtain ⟨rfl, front⟩ := stands
  obtain ⟨rfl, rfl⟩ : held = none ∧ ahead = [] := by simpa using front
  rfl

/-- The beginning of a text stands in front of its lines. -/
theorem stands_start (text : String) : (start (splitLines text)).Stands 0 (linesOf text) where
  number := rfl
  lines := by simp [start, splitLines, linesOf, Function.comp_def]

end Cursor

namespace SlowLog

variable {c : Cursor} {n : Nat} {line : String} {lines : List String}

/-! ### Records -/

theorem exists_required (stands : c.Stands n (line :: lines)) (expected : RequiredLine) :
    ∃ c', required expected c = .ok (line, c') ∧ c'.Stands (n + 1) lines := by
  obtain ⟨c₁, -, taken, next, -⟩ := stands.exists_take
  exact ⟨c₁, by simp [required, taken], next⟩

theorem exists_requiredForm {α : Type} {form : String → Option α} {found : α}
    (stands : c.Stands n (line :: lines)) (expected : RequiredLine)
    (reads : form line = some found) :
    ∃ c', requiredForm expected form c = .ok (found, c') ∧ c'.Stands (n + 1) lines := by
  obtain ⟨c₁, here, next⟩ := exists_required stands expected
  exact ⟨c₁, by simp [requiredForm, here, reads], next⟩

/-- A line that chooses a database is passed over if it is there, and any other line stays. -/
theorem exists_skipUse {b : Block}
    (stands : c.Stands n (b.database.toList.map Block.useLine ++ b.setLine :: lines)) :
    ∃ c', skipUse c = .ok c'
      ∧ c'.Stands (n + b.database.toList.length) (b.setLine :: lines) := by
  cases chosen : b.database with
  | none =>
      rw [chosen] at stands
      obtain ⟨c₁, c₂, taken, -, back, again⟩ := Cursor.Stands.exists_take stands
      exact ⟨c₂, by simp [skipUse, taken, b.isUse_setLine, back], again⟩
  | some name =>
      rw [chosen] at stands
      obtain ⟨nonempty, inline⟩ := b.database_inline name chosen
      obtain ⟨c₁, -, taken, next, -⟩ := Cursor.Stands.exists_take stands
      exact ⟨c₁, by simp [skipUse, taken, Block.isUse_useLine nonempty inline], next⟩

/-- **A block is read as its entry**, with or without a line that chooses a database, and the cursor
stands behind its last line. -/
theorem exists_readRecord {b : Block} (stands : c.Stands n (b.lines ++ lines)) :
    ∃ c', readRecord c = .ok (b.entry (n + b.lines.length), c')
      ∧ c'.Stands (n + b.lines.length) lines := by
  have written : b.lines ++ lines = b.callerLine :: b.metadataLine ::
      (b.database.toList.map Block.useLine ++ b.setLine :: b.sql.text :: lines) := by
    simp [Block.lines]
  rw [written] at stands
  obtain ⟨c₁, caller, stands⟩ := exists_requiredForm stands .userHeader b.caller?_callerLine
  obtain ⟨c₂, measures, stands⟩ :=
    exists_requiredForm stands .queryMetadata b.measures?_metadataLine
  obtain ⟨c₃, skipped, stands⟩ := exists_skipUse stands
  obtain ⟨start, named⟩ := Option.isSome_iff_exists.1 b.start_isSome
  obtain ⟨c₄, set, stands⟩ :=
    exists_requiredForm stands .setStatement (b.timestamp?_setLine.trans named)
  obtain ⟨c₅, sql, stands⟩ := exists_required stands .sqlText
  have last : n + 1 + 1 + b.database.toList.length + 1 + 1 = n + b.lines.length := by
    simp [Block.lines]
    omega
  rw [last] at stands
  refine ⟨c₅, ?_, stands⟩
  simp [readRecord, caller, measures, skipped, set, sql, bind, Except.bind, Block.entry, named,
    stands.number]

/-- The record that comes next is read. -/
theorem exists_readRecord? {b : Block} (stands : c.Stands n (b.lines ++ lines)) :
    ∃ c', readRecord? c = .ok (some (b.entry (n + b.lines.length)), c')
      ∧ c'.Stands (n + b.lines.length) lines := by
  obtain ⟨c₁, c₂, taken, -, back, again⟩ := Cursor.Stands.exists_take stands
  obtain ⟨c', read, next⟩ := exists_readRecord again
  exact ⟨c', by simp [readRecord?, taken, back, b.isRecord_callerLine, read], next⟩

/-- No record is read where none comes next, and no line is lost. -/
theorem exists_readRecord?_none (stands : c.Stands n lines)
    (other : ∀ line ∈ lines.head?, isRecord line = false) :
    ∃ c', readRecord? c = .ok (none, c') ∧ c'.Stands n lines := by
  cases lines with
  | nil => exact ⟨c, by simp [readRecord?, stands.take_nil], stands⟩
  | cons line lines =>
      obtain ⟨c₁, c₂, taken, -, back, again⟩ := stands.exists_take
      have missing : isRecord line = false := other line (by simp)
      exact ⟨c₂, by simp [readRecord?, taken, back, missing], again⟩

/-- The records that follow each other are the first one and those behind it: the definition without
its proof that the recursion ends. -/
theorem readRecords_eq (c : Cursor) :
    readRecords c = (do
      match ← readRecord? c with
      | (none, c) => .ok ([], c)
      | (some e, c) =>
        let (es, c) ← readRecords c
        .ok (e :: es, c)) := by
  rw [readRecords]
  split
  · next step => simp only [step, error_bind]
  · next step => simp only [step, ok_bind]
  · next step =>
    simp only [step, ok_bind]
    split
    · next more => rw [more, error_bind]
    · next more => rw [more, ok_bind]

/-- The entries of placed blocks. -/
def entriesOf (placed : List (Nat × Block)) : List Entry := placed.map fun (line, b) => b.entry line

/-- **Blocks are read one after the other**, up to a line that starts no record. -/
theorem exists_readRecords {bs : List Block} (stands : c.Stands n (bs.flatMap Block.lines ++ lines))
    (other : ∀ line ∈ lines.head?, isRecord line = false) :
    ∃ c', readRecords c = .ok (entriesOf (placeBlocks n bs), c')
      ∧ c'.Stands (n + (bs.flatMap Block.lines).length) lines := by
  induction bs generalizing c n with
  | nil =>
      obtain ⟨c', none, again⟩ := exists_readRecord?_none stands other
      exact ⟨c', by simp only [readRecords_eq c, none, ok_bind]; rfl, again⟩
  | cons b bs ih =>
      rw [List.flatMap_cons, List.append_assoc] at stands
      obtain ⟨c₁, first, next⟩ := exists_readRecord? stands
      obtain ⟨c₂, more, last⟩ := ih next
      refine ⟨c₂, by simp only [readRecords_eq c, first, ok_bind, more]; rfl, ?_⟩
      rwa [List.flatMap_cons, List.length_append, ← Nat.add_assoc]

/-! ### Sections -/

/-- The sections of a log are those behind its first line, with the records that follow if this
line is a marker. -/
theorem readSections_eq_bind (c : Cursor) :
    readSections c = (do
      match ← c.take with
      | (none, _) => .ok []
      | (some line, c₁) =>
        if isSection line then
          let (es, c₂) ← readRecords c₁
          let more ← readSections c₂
          .ok (es.filter (fun e => !isDiagnostic e.sql) ++ more)
        else readSections c₁) := by
  rw [readSections]
  split
  · next taken => simp only [taken, error_bind]
  · next taken => simp only [taken, ok_bind]
  · next taken =>
    simp only [taken, ok_bind]
    split
    · split
      · next records => simp only [records, error_bind]
      · next records =>
        simp only [records, ok_bind]
        split
        · next more => rw [more, error_bind]
        · next more => rw [more, ok_bind]
    · rfl

theorem readSections_nil (stands : c.Stands n []) : readSections c = .ok [] := by
  rw [readSections_eq_bind, stands.take_nil]
  rfl

theorem readSections_of_other {c₁ : Cursor} (taken : c.take = .ok (some line, c₁))
    (other : isSection line = false) : readSections c = readSections c₁ := by
  rw [readSections_eq_bind, taken, ok_bind]
  simp only [other, Bool.false_eq_true, if_false]

/-- The sections behind a marker are the records that follow and the sections behind these. -/
theorem readSections_of_section {c₁ : Cursor} (taken : c.take = .ok (some line, c₁))
    (opens : isSection line = true) :
    readSections c = (do
      let (es, c₂) ← readRecords c₁
      let more ← readSections c₂
      .ok (es.filter (fun e => !isDiagnostic e.sql) ++ more)) := by
  rw [readSections_eq_bind, taken, ok_bind]
  simp only [opens, if_true]

/-- An entry is left out exactly if its block is diagnostic. -/
theorem isDiagnostic_entry (b : Block) (line : Nat) :
    isDiagnostic (b.entry line).sql = decide b.Diagnostic := by
  rw [isDiagnostic, Bool.eq_iff_iff, Text.occurs_iff, decide_eq_true_iff]
  rfl

theorem filter_entriesOf (placed : List (Nat × Block)) :
    (entriesOf placed).filter (fun e => !isDiagnostic e.sql) = readable placed := by
  simp [entriesOf, readable, List.filter_map, Function.comp_def, isDiagnostic_entry]

/-- Lines between sections are passed over. -/
theorem exists_readSections_asides {as : List Aside}
    (stands : c.Stands n (as.map (fun a => a.text) ++ lines)) :
    ∃ c', readSections c = readSections c' ∧ c'.Stands (n + as.length) lines := by
  induction as generalizing c n with
  | nil => exact ⟨c, rfl, stands⟩
  | cons a as ih =>
      obtain ⟨c₁, -, taken, next, -⟩ := Cursor.Stands.exists_take stands
      obtain ⟨c', same, last⟩ := ih next
      refine ⟨c', (readSections_of_other taken a.isSection_text).trans same, ?_⟩
      rwa [List.length_cons, Nat.add_comm as.length, ← Nat.add_assoc]

/-- No line of sections and of lines between them starts a record in front of all others. -/
theorem isRecord_head {as : List Aside} {ss : List Section} :
    ∀ line ∈ (as.map (fun a => a.text) ++ ss.flatMap Section.lines).head?,
      isRecord line = false := by
  intro line first
  cases as with
  | cons a as =>
      obtain rfl : a.text = line := by simpa using first
      exact a.isRecord_text
  | nil =>
      cases ss with
      | nil => simp at first
      | cons s ss =>
          obtain rfl : "# Time: " ++ s.time.text = line := by simpa [Section.lines] using first
          exact s.isRecord_marker

/-- **Sections are read as the entries of their blocks.** By induction on the sections, with any
lines and any blocks in them. -/
theorem readSections_eq {ss : List Section} (stands : c.Stands n (ss.flatMap Section.lines)) :
    readSections c = .ok (readable (placeSections n ss)) := by
  induction ss generalizing c n with
  | nil => exact readSections_nil stands
  | cons s ss ih =>
      have written : (s :: ss).flatMap Section.lines = ("# Time: " ++ s.time.text) ::
          (s.blocks.flatMap Block.lines ++ (s.asides.map (fun a => a.text)
            ++ ss.flatMap Section.lines)) := by
        simp [Section.lines]
      rw [written] at stands
      obtain ⟨c₁, -, taken, next, -⟩ := stands.exists_take
      obtain ⟨c₂, records, next⟩ := exists_readRecords next isRecord_head
      obtain ⟨c₃, same, last⟩ := exists_readSections_asides next
      have length : n + 1 + (s.blocks.flatMap Block.lines).length + s.asides.length
          = n + s.lines.length := by
        simp [Section.lines]
        omega
      rw [length] at last
      simp only [readSections_of_section taken s.isSection_marker, records, ok_bind,
        same.trans (ih last), filter_entriesOf]
      simp [placeSections, readable]

/-! ### Whole logs -/

/-- The lines of a header are taken. -/
theorem exists_takeHeader {header : List String} (last : Option String)
    (stands : c.Stands n (header ++ lines)) :
    ∃ last' c', takeHeader header.length last c = .ok (0, last', c')
      ∧ c'.Stands (n + header.length) lines := by
  induction header generalizing c n last with
  | nil => exact ⟨last, c, rfl, stands⟩
  | cons line header ih =>
      obtain ⟨c₁, -, taken, next, -⟩ := Cursor.Stands.exists_take stands
      obtain ⟨last', c', rest, done⟩ := ih (some line) next
      refine ⟨last', c', by simp [takeHeader, taken, rest], ?_⟩
      rwa [List.length_cons, Nat.add_comm header.length, ← Nat.add_assoc]

/-- A log with the lines of a transcript is read as what there is to read in the transcript. -/
theorem read_eq_of_lines {d : Transcript} {text : String} (same : linesOf text = d.lines) :
    read d.header.length (splitLines text) = .ok d.entries := by
  have stands := Cursor.stands_start text
  rw [same, Transcript.lines, List.append_assoc] at stands
  obtain ⟨_, c₁, header, next⟩ := exists_takeHeader none stands
  rw [List.length_map] at header next
  obtain ⟨c₂, passed, next⟩ := exists_readSections_asides next
  rw [Nat.zero_add] at next
  simp [read, readFrom, header, passed, readSections_eq next, Transcript.entries, Transcript.placed]

/-- **A transcript is read as what there is to read in it**, however its lines end: an entry for
each block that is not diagnostic, in the order of the blocks and with the line that holds its
query. -/
theorem read_transcript (d : Transcript) :
    d.placed.map Prod.snd = d.sections.flatMap Section.blocks
      ∧ (∀ n b, (n, b) ∈ d.placed → ∃ k, n = k + 1 ∧ d.lines[k]? = some b.sql.text)
      ∧ (∀ ending ∈ ["\n", "\r\n"], linesOf (d.text ending) = d.lines)
      ∧ ∀ text, linesOf text = d.lines →
          read d.header.length (splitLines text) = .ok d.entries :=
  ⟨blocks_placed d, fun _ _ => getElem?_of_mem_placed, fun _ => linesOf_text d,
    fun _ => read_eq_of_lines⟩

/-- A query on a chosen database is read, and one that the server ran for its diagnosis is not. -/
theorem read_of_two_blocks :
    ∃ (d : Transcript) (text : String), linesOf text = d.lines
      ∧ d.lines.length = 12
      ∧ d.entries.map (fun e => (e.user, e.sql, e.line)) = [("a b[c]", "select 1", 7)]
      ∧ read d.header.length (splitLines text) = .ok d.entries := by
  let one : Digits := ⟨"1", by decide, List.all_eq_true.1 (by decide)⟩
  let half : Numeral := ⟨"0", some "5", by decide, List.all_eq_true.1 (by decide)⟩
  let block (database : Option String) (sql : Line)
      (chosen : ∀ name ∈ database, name.toList ≠ [] ∧ Inline name) : Block :=
    { user := "a b", account := "c", host := "", address := "10.0.0.1", connection := one
      queryTime := half, lockTime := half, rowsSent := one, rowsExamined := one, database
      timestamp := one, sql
      user_trimmed := by decide +kernel
      user_plain := ⟨by decide, by decide, by decide⟩
      account_plain := ⟨by decide, by decide, by decide⟩
      host_plain := ⟨by decide, by decide, by decide⟩
      host_solid := by simp
      address_plain := ⟨by decide, by decide, by decide⟩
      duration_isSome := by decide +kernel
      rowsSent_lt := by decide
      rowsExamined_lt := by decide
      database_inline := chosen
      start_isSome := by decide +kernel }
  let first : Block := block (some "db") ⟨"select /* all */1", by decide⟩ fun name chosen => by
    obtain rfl : "db" = name := by simpa using chosen
    exact ⟨by decide, by decide⟩
  let second : Block := block none ⟨"select 2 -- index not used", by decide⟩ (by simp)
  let d : Transcript := ⟨[⟨"Argument", by decide⟩], [],
    [⟨⟨"now", by decide⟩, [first, second], [⟨⟨"", by decide⟩, by decide⟩]⟩]⟩
  have lines : linesOf (d.text "\r\n") = d.lines := (read_transcript d).2.2.1 "\r\n" (by decide)
  have entries : d.entries.map (fun e => (e.user, e.sql, e.line))
      = [("a b[c]", "select 1", 7)] := by decide +kernel
  exact ⟨d, d.text "\r\n", lines, rfl, entries, (read_transcript d).2.2.2 _ lines⟩

end SlowLog

end QueryFlow.Log
