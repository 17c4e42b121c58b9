import QueryFlow.Analysis.Analyzer
import QueryFlow.Json.Document
import QueryFlow.Time.Stamp

/-!
# Reports

A report is an analysis as one JSON document: the intervals of the queries, the time slices, the
flow graph, the phases, the queries, the counts, and the intervals that took longest, in this order.
Every part has a document of its own, named after what it is the document of, so a report is put
together as the analysis is: records become objects whose fields stand in a fixed order, lists
become lists.

The order of the fields is part of the format, since a document keeps its fields as a list. Instants
are written as texts, whole numbers as they are, and seconds as the shortest decimal that is read as
the same number.

A summary says in a few lines what an analysis found, for those who do not read the report: how many
queries there were of every kind, how large the graph is, the tables of each phase, and how many
queries ran at most in one slice. Its words are those that the program prints.

A report is handed to a writer, which may refuse it. `Analysis.deliver` is stated for a writer in
any monad, so the same definition serves for a file and for a buffer.
-/

namespace QueryFlow

open Json

/-- An instant in a report. -/
def Time.Instant.document (t : Time.Instant) : Document := .text t.format

/-- An interval in a report. -/
def Timeline.Interval.document (i : Timeline.Interval) : Document :=
  .object [("query", .ofNat i.query), ("start", i.start.document), ("end", i.finish.document)]

/-- A time slice in a report. -/
def Timeline.Slice.document (s : Timeline.Slice) : Document :=
  .object [("start", s.start.document), ("end", s.finish.document), ("count", .ofNat s.count)]

/-- An edge in a report. -/
def Flow.Edge.document (e : Flow.Edge) : Document :=
  .object [("source", .ofNat e.source), ("target", .ofNat e.target), ("query", .ofNat e.query)]

/-- A flow graph in a report. -/
def Flow.Graph.document (g : Flow.Graph) : Document :=
  .object [("nodes", .ofTexts g.nodes), ("edges", .list (g.edges.map Flow.Edge.document))]

/-- A phase in a report. -/
def Flow.Phase.document (p : Flow.Phase) : Document :=
  .object [("index", .ofNat p.index), ("queries", .list (p.queries.map Document.ofNat)),
    ("tables", .ofTexts p.tables.toList)]

/-- An entry of a log in a report. An entry without a start has none there either. -/
def Log.Entry.document (e : Log.Entry) : Document :=
  .object [("start_time", (e.start.map Time.Instant.document).getD .null),
    ("user_host", .text e.user), ("host", .text e.host), ("ip_address", .text e.address),
    ("connection_id", .text e.connection), ("query_time_seconds", .ofDouble e.queryTime),
    ("lock_time_seconds", .ofDouble e.lockTime), ("rows_sent", .ofNat e.rowsSent),
    ("rows_examined", .ofNat e.rowsExamined), ("sql_text", .text e.sql), ("line", .ofNat e.line)]

/-- What a context says in a report besides its kind: one line of fields for each kind. -/
def Context.details : Context → List (String × Document)
  | maintenance => []
  | lookup sources => [("source_tables", .ofTexts sources.toList)]
  | insert i =>
    [("target_table", .text i.target), ("source_tables", .ofTexts i.sources.toList)]
  | create c =>
    [("target_table", .text c.target), ("source_tables", .ofTexts c.sources.toList)]
  | unload u => [("location", .text u.location), ("source_tables", .ofTexts u.sources.toList)]
  | copy c =>
    [("direction", .text c.direction.name), ("tables", .ofTexts c.tables.toList),
      ("location", .text c.location)]

/-- A context in a report. -/
def Context.document (c : Context) : Document := .object (("kind", .text c.kind) :: c.details)

/-- A query in a report: its entry, and the contexts of its statement in their order. -/
def LoggedQuery.document (q : LoggedQuery) : Document :=
  .object [("entry", q.entry.document),
    ("classification",
      .object [("contexts", .list (q.classification.contexts.map Context.document))])]

/-- Counts in a report. -/
def Counts.document (n : Counts) : Document :=
  .object (n.named.map fun (name, value) => (name, .ofNat value))

namespace Analysis

/-- An analysis as a report. -/
def document (a : Analysis) : Document :=
  .object [("entries", .list (a.intervals.map Timeline.Interval.document)),
    ("time_slices", .list (a.slices.map Timeline.Slice.document)),
    ("graph", a.graph.document),
    ("phases", .list (a.phases.map Flow.Phase.document)),
    ("queries", .list (a.queries.map LoggedQuery.document)),
    ("counts", a.counts.document),
    ("longest", .list (a.longest.map Timeline.Interval.document))]

/-- The text of the report on an analysis. -/
def report (a : Analysis) : String := a.document.pretty

/-- Hands the report to a writer, which may refuse it. -/
def deliver {m : Type → Type} [Monad m] (write : String → m (Except IoFault Unit)) (a : Analysis) :
    m (Except Fault Unit) := do
  match ← write a.report with
  | .ok () => return .ok ()
  | .error cause => return .error (.report cause.message)

/-- The greatest number of queries that run in one slice. -/
def peak (a : Analysis) : Nat := a.slices.foldl (fun n s => max n s.count) 0

/-- A whole number in a line of a summary. -/
def figure (n : Nat) : String := String.ofList (Decimal.natDigits n)

/-- What an analysis found, line by line: an empty line first, then the numbers, the phases and the
peak. -/
def summary (a : Analysis) : List String :=
  let n := a.counts
  ["",
    "解析完成，共 " ++ figure n.total ++ " 条查询，成功分类 " ++ figure n.parsed
      ++ " 条，语法错误 " ++ figure n.rejected ++ " 条，保留 " ++ figure n.moves ++ " 条。",
    "维护 " ++ figure n.maintenance ++ " | 查询 " ++ figure n.lookups ++ " | INSERT "
      ++ figure n.inserts ++ " (INSERT…SELECT " ++ figure n.insertedRows ++ ") | CTAS "
      ++ figure n.creations ++ " | UNLOAD " ++ figure n.unloads ++ " | COPY " ++ figure n.copies,
    "血缘图: " ++ figure a.graph.nodes.length ++ " 个节点, " ++ figure a.graph.edges.length
      ++ " 条边; 共 " ++ figure a.phases.length ++ " 个执行阶段"]
    ++ a.phases.map (fun p =>
      "  阶段 " ++ figure p.index ++ ": " ++ String.intercalate ", " p.tables.toList)
    ++ ["时间桶 " ++ figure a.slices.length ++ " 个，最大并发 " ++ figure a.peak]

end Analysis

end QueryFlow
