import QueryFlow.Proofs.Analysis.Parts
import QueryFlow.Proofs.Analysis.Batch
import QueryFlow.Proofs.Flow.Contribution
import QueryFlow.Proofs.Intent.Refusal
import QueryFlow.Proofs.Intent.WarehouseCopy
import QueryFlow.Proofs.Log.Reading
import QueryFlow.Proofs.Text.Comment
import QueryFlow.Proofs.Text.Lowercase

/-!
# A place reaches the flow graph as it was written

A copy in a slow log goes through three steps that look at its text, none of which knows of the
others: comments are removed from it, the place is read out of its quotes, and the name of its node
is put in lower case. Where the first step removes nothing, the place comes out of the others as it
was written, whatever characters it has.

The first step knows nothing of quotes. So a place with a whole comment in it loses the comment, and
the graph has a node of another name.

## How the proof goes

The statement is a `copyStatement` in plain style, which stands in a block of a transcript. The
steps are followed from the log to the graph.

* The block is read as an entry, by the results on transcripts, unless it holds the marker of a
  diagnosis. The marker would have to stand somewhere in the statement, and it cannot overlap the
  words of the copy: `place_or_options_of_marker` walks along the text and finds that it lies within
  the place or behind it. So the two conditions on the marker are conditions on what was copied.
* The text of the entry is the statement without its comments, and there are none.
* The classifier recognises it as a copy, without asking its reader, hence for every dialect and any
  further predicates.
* The graph of a batch with this query has a single edge of it, from the place to the table.

A statement with a comment in its place shows where the first step goes wrong: its entry has another
place, and every later step is as careful with that one.

## Main results

* `place_or_options_of_marker`: where the marker of a diagnosis can stand in a copy.
* `traces_of_copyStatement`: a copy has one edge, from its place to its table.
* `place_lost_with_comment`: not so if there is a comment in the place.
-/

namespace QueryFlow

open QueryFlow.Flow QueryFlow.Intent QueryFlow.Log QueryFlow.Sql QueryFlow.Text

/-- The marker of a diagnosis does not start with a blank, so a blank in front of a text can be left
away. -/
theorem infix_of_marker_cons {cs : List Char} (marked : "index not used".toList <:+: ' ' :: cs) :
    "index not used".toList <:+: cs := by
  have letters : "index not used".toList = 'i' :: "ndex not used".toList := by decide
  refine (List.infix_cons_iff.1 marked).resolve_left fun starts => ?_
  rw [letters, List.cons_prefix_cons] at starts
  exact absurd starts.1 (by decide)

/-- Only the place and what stands behind it can hold the marker of a diagnosis: of everything in
front the marker would need a letter that is not there. -/
theorem place_or_options_of_marker {table location : String} {behind : List Char}
    (chars : ∀ c ∈ table.toList, isTableChar c = true)
    (marked : "index not used".toList <:+: copyText table location behind) :
    "index not used".toList <:+: location.toList ∨ "index not used".toList <:+: behind := by
  have split : copyText table location behind = "cop".toList ++ 'y' ::
      ((' ' :: (table.toList ++ [' '])) ++ 'f' :: ("ro".toList ++ 'm' ::
        ([' '] ++ '\'' :: (quote location.toList ++ '\'' :: behind)))) := by
    simp [copyText]
  rw [split, infix_append_cons_iff (by decide), infix_append_cons_iff (by decide),
    infix_append_cons_iff (by decide), infix_append_cons_iff (by decide),
    infix_append_cons_iff (by decide)] at marked
  rcases marked with short | named | short | short | place | later
  · exact absurd short (by decide)
  · -- the marker has one blank too many to stand behind the first one
    have blanks : "index not used".toList.count ' ' = 2 := by decide
    have solid : table.toList.count ' ' = 0 :=
      List.count_eq_zero.2 fun member => absurd (chars ' ' member) (by decide)
    have bound := (infix_of_marker_cons named).sublist.count_le ' '
    rw [blanks, List.count_append, solid] at bound
    exact absurd bound (by decide)
  · exact absurd short (by decide)
  · exact absurd short (by decide)
  · exact .inl (infix_of_quote (by decide) place)
  · exact .inr later

/-- A copy whose place and options do not have the marker of a diagnosis is not diagnostic. -/
theorem not_diagnostic_of_copyStatement {b : Block} {table location : String}
    {options : Option String} (chars : ∀ c ∈ table.toList, isTableChar c = true)
    (statement : b.sql.text = copyStatement table location options)
    (whole : ¬ Commented b.sql.text.toList)
    (quiet : ¬ "index not used".toList <:+: location.toList)
    (quietOptions : ∀ o ∈ options, ¬ "index not used".toList <:+: o.toList) : ¬ b.Diagnostic := by
  intro diagnostic
  rw [Block.Diagnostic, stripInlineComments, stripComments_eq_self_iff.2 whole,
    String.ofList_toList, statement, toList_copyStatement] at diagnostic
  rcases place_or_options_of_marker chars diagnostic with place | later
  · exact quiet place
  · cases options with
    | none => exact absurd later (by decide)
    | some o => exact quietOptions o rfl (infix_of_marker_cons later)

namespace Batch

/-- An entry is kept, and its query has a single edge, between the nodes of these names. -/
def Traces (b : Batch) (entry : Log.Entry) (source target : String) : Prop :=
  ∃ query c, b.queries[query]? = some ⟨entry, c⟩
    ∧ (Graph.ofQueries (b.queries.map LoggedQuery.classification)).SoleEdge query source target

/-- A copy among the entries of a batch is traced from its place to its table. -/
theorem traces_of_classify {c : Classifier} {workers : Nat} {entries : List Log.Entry} {b : Batch}
    (made : ofEntries c workers entries = .ok b) {entry : Log.Entry} (listed : entry ∈ entries)
    {table location : String} (found : c.classify entry.sql = .ok (copied table location)) :
    b.Traces entry (lowercase location) (normalize table) := by
  have member : ⟨entry, copied table location⟩ ∈ b.queries := by
    rw [queries_ofEntries made, List.mem_filterMap]
    exact ⟨entry, listed, by rw [found]; rfl⟩
  obtain ⟨query, at_query⟩ := List.mem_iff_getElem?.1 member
  have final : lowercase (normalize table) = normalize table := lowercase_lowercase _
  refine ⟨query, copied table location, at_query, ?_⟩
  rw [← final]
  exact Graph.soleEdge_ofQueries (by rw [List.getElem?_map, at_query]; rfl) rfl rfl

/-- **A place reaches the flow graph as it was written**, unless there is a comment in the statement:
the log is read, the copy is kept, and its only edge leads from the place to the table, whatever is
asked about other statements. -/
theorem traces_of_copyStatement {d : Transcript} {n : Nat} {b : Block} (placed : (n, b) ∈ d.placed)
    {table location : String} {options : Option String} (named : table ≠ "")
    (chars : ∀ c ∈ table.toList, isTableChar c = true)
    (statement : b.sql.text = copyStatement table location options)
    (whole : ¬ Commented b.sql.text.toList)
    (quiet : ¬ "index not used".toList <:+: location.toList)
    (quietOptions : ∀ o ∈ options, ¬ "index not used".toList <:+: o.toList) (dialect : Dialect)
    (predicates : List Predicate) (workers : Nat) {text : String} (lines : linesOf text = d.lines) :
    SlowLog.read d.header.length (splitLines text) = .ok d.entries
      ∧ ∃ batch, ofEntries ⟨readStatements dialect, predicates⟩ workers d.entries = .ok batch
        ∧ batch.Traces (b.entry n) (lowercase location) (normalize table) := by
  refine ⟨SlowLog.read_eq_of_lines lines, ?_⟩
  obtain ⟨batch, made⟩ :=
    exists_ofEntries (c := ⟨readStatements dialect, predicates⟩) (lenient_readStatements dialect)
      workers d.entries
  have kept := not_diagnostic_of_copyStatement chars statement whole quiet quietOptions
  have listed : b.entry n ∈ d.entries :=
    List.mem_map.2 ⟨(n, b), List.mem_filter.2 ⟨placed, by simp [kept]⟩, rfl⟩
  have sql : (b.entry n).sql = copyStatement table location options := by
    rw [← statement, Block.entry, stripInlineComments, stripComments_eq_self_iff.2 whole,
      String.ofList_toList]
  refine ⟨batch, made, traces_of_classify made listed ?_⟩
  rw [sql]
  exact classify_copyStatement _ named chars

/-- A transcript with one block, of which only the query matters. -/
def transcriptOf (sql : Line) : Transcript :=
  let one : Digits := ⟨"1", by decide, List.all_eq_true.1 (by decide)⟩
  let zero : Numeral := ⟨"0", none, by decide, List.all_eq_true.1 (by decide)⟩
  let block : Block :=
    { user := "a", account := "a", host := "", address := "", connection := one
      queryTime := zero, lockTime := zero, rowsSent := one, rowsExamined := one, database := none
      timestamp := one, sql
      user_trimmed := by decide +kernel
      user_plain := ⟨by decide, by decide, by decide⟩
      account_plain := ⟨by decide, by decide, by decide⟩
      host_plain := ⟨by decide, by decide, by decide⟩
      host_solid := by simp
      address_plain := ⟨by decide, by decide, by decide⟩
      duration_isSome := by decide +kernel
      rowsSent_lt := by decide
      rowsExamined_lt := by decide
      database_inline := by simp
      start_isSome := by decide +kernel }
  ⟨[], [], [⟨⟨"now", by decide⟩, [block], []⟩]⟩

/-- The block of a transcript with one block. -/
theorem exists_placed_transcriptOf (sql : Line) :
    ∃ n b, (transcriptOf sql).placed = [(n, b)] ∧ b.sql = sql :=
  ⟨_, _, rfl, rfl⟩

/-- A place in which quotes and the start of a comment stand is traced as it was written. -/
theorem traces_of_quoted_place :
    ∃ (d : Transcript) (n : Nat) (b : Block) (text : String) (batch : Batch),
      (n, b) ∈ d.placed ∧ linesOf text = d.lines
        ∧ b.sql.text = "copy \"Sales\" from 'S3://it''s/*/here' region 'x'"
        ∧ SlowLog.read d.header.length (splitLines text) = .ok d.entries
        ∧ ofEntries (.withReader (readStatements .redshift)) 2 d.entries = .ok batch
        ∧ batch.Traces (b.entry n) "s3://it's/*/here" "sales" := by
  let sql : Line := ⟨"copy \"Sales\" from 'S3://it''s/*/here' region 'x'", by decide +kernel⟩
  obtain ⟨n, b, placed, same⟩ := exists_placed_transcriptOf sql
  have member : (n, b) ∈ (transcriptOf sql).placed := by simp [placed]
  have text : b.sql.text = sql.text := by rw [same]
  have statement : b.sql.text
      = copyStatement "\"Sales\"" "S3://it's/*/here" (some "region 'x'") :=
    text.trans (by decide +kernel)
  have whole : ¬ Commented b.sql.text.toList := by
    rw [text]
    decide +kernel
  have lines : linesOf ((transcriptOf sql).text "\n") = (transcriptOf sql).lines :=
    linesOf_text _ (by decide)
  have chars : ∀ c ∈ "\"Sales\"".toList, isTableChar c = true :=
    List.all_eq_true.1 (by decide +kernel)
  obtain ⟨read, batch, made, traces⟩ := traces_of_copyStatement member (by decide) chars
    statement whole (by decide) (by decide) .redshift Predicate.standard 2 lines
  have names : lowercase "S3://it's/*/here" = "s3://it's/*/here"
      ∧ normalize "\"Sales\"" = "sales" := by decide +kernel
  rw [names.1, names.2] at traces
  exact ⟨_, n, b, _, batch, member, lines, text, read, made, traces⟩

/-- **A comment in a place is lost**: the graph has a node of another name, and none of the name
that was written, whatever the classifier is. -/
theorem place_lost_with_comment :
    ∃ (d : Transcript) (n : Nat) (b : Block) (text : String),
      (n, b) ∈ d.placed ∧ linesOf text = d.lines
        ∧ b.sql.text = copyStatement "t" "s3://logs/*/2024*/part" none
        ∧ ¬ "index not used".toList <:+: "s3://logs/*/2024*/part".toList
        ∧ SlowLog.read d.header.length (splitLines text) = .ok d.entries
        ∧ ∀ c workers, ∃ batch, ofEntries c workers d.entries = .ok batch
          ∧ batch.Traces (b.entry n) "s3://logspart" "t"
          ∧ ¬ batch.Traces (b.entry n) (lowercase "s3://logs/*/2024*/part") (normalize "t") := by
  let sql : Line := ⟨"copy t from 's3://logs/*/2024*/part'", by decide +kernel⟩
  obtain ⟨n, b, placed, same⟩ := exists_placed_transcriptOf sql
  have member : (n, b) ∈ (transcriptOf sql).placed := by simp [placed]
  have text : b.sql.text = sql.text := by rw [same]
  have lines : linesOf ((transcriptOf sql).text "\n") = (transcriptOf sql).lines :=
    linesOf_text _ (by decide)
  have stripped : stripInlineComments b.sql.text = copyStatement "t" "s3://logspart" none := by
    rw [text]
    decide +kernel
  have entries : (transcriptOf sql).entries = [b.entry n] := by
    have quiet : ¬ b.Diagnostic := by
      rw [Block.Diagnostic, text]
      decide +kernel
    simp [Transcript.entries, readable, placed, quiet]
  refine ⟨transcriptOf sql, n, b, _, member, lines, text.trans (by decide +kernel), by decide,
    SlowLog.read_eq_of_lines lines, fun c workers => ?_⟩
  have found : c.classify (b.entry n).sql = .ok (copied "t" "s3://logspart") :=
    (congrArg c.classify stripped).trans <|
      classify_copyStatement c (by decide) (List.all_eq_true.1 (by decide +kernel))
  have made : ofEntries c workers (transcriptOf sql).entries
      = .ok (empty.add (b.entry n) (copied "t" "s3://logspart")) := by
    rw [entries, ofEntries_eq, classified, List.map_cons, List.map_nil, found]
    rfl
  refine ⟨_, made, ?_, ?_⟩
  · have names : lowercase "s3://logspart" = "s3://logspart" ∧ normalize "t" = "t" := by
      decide +kernel
    have traces := traces_of_classify made (by simp [entries]) found
    rwa [names.1, names.2] at traces
  · rintro ⟨query, _, -, s, t, -, named, -⟩
    have nodes : (Graph.ofQueries [copied "t" "s3://logspart"]).nodes = ["s3://logspart", "t"] := by
      decide +kernel
    have other : lowercase "s3://logs/*/2024*/part" ∉ ["s3://logspart", "t"] := by decide +kernel
    exact other (nodes ▸ List.mem_of_getElem? named)

end Batch

end QueryFlow
