import QueryFlow.Analysis.Batch
import QueryFlow.Flow.Phase
import QueryFlow.Log.History
import QueryFlow.Log.SlowLog
import QueryFlow.Settings.Basic
import QueryFlow.Timeline.Slice

/-!
# Analyses

An analysis lays out the queries of a log that move data: the flow graph of what they read and
write, the phases in which they could run, when they ran, and which of them took longest. Queries
are known by their positions in the list of kept queries, everywhere alike: an edge of the graph, a
query of a phase and an interval of the timeline that carry one number are about one query.

* `Analyzer` — a classifier, and how to count;
* `Analyzer.analyze`, `Analyzer.analyzeLines` — the analysis of entries, and of the lines of a log.

## Which fault comes first

The slices are worked out beside the flow graph, so a fault of theirs is looked at when the phases
are there. A log whose queries go round in a circle is refused as such, even if its slices cannot be
laid out; but where the work on the slices does not come to an end in the ordinary way, nothing else
counts any more. `beside` says so of any two pieces of work.

## Main statement

* `graph_of_analyze`: the flow graph is that of the kept queries. That the other parts are computed
  from the same list, so that their numbers agree, is proved in `Proofs.Analysis.Coherence`.
-/

namespace QueryFlow

open QueryFlow.Flow QueryFlow.Intent QueryFlow.Timeline

/-- What is found out about a log. -/
structure Analysis where
  /-- When the queries ran, in the order of their starts. -/
  intervals : List Interval
  /-- How many queries ran in each slice of time. -/
  slices : List Slice
  /-- What the kept queries read and write. -/
  graph : Graph
  /-- The phases in which the kept queries could run. -/
  phases : List Phase
  /-- The queries that are kept. -/
  queries : List LoggedQuery
  /-- How many queries of the log did what, also of those that are not kept. -/
  counts : Counts
  /-- When the queries ran that took longest. -/
  longest : List Interval

/-- What makes analyses. -/
structure Analyzer where
  /-- Says what the statements do. -/
  classifier : Classifier
  /-- The width of the slices, the number of workers and how many of the longest intervals are
  given. -/
  settings : AnalysisSettings
  /-- The number of lines before the first record of a slow log. -/
  headerLines : Nat

namespace Analyzer

/-- The analyzer that settings ask for. A dialect that is not known is refused before anything is
read. -/
def ofSettings (s : Settings) : Except Fault Analyzer :=
  (Classifier.forDialect s.source.dialect).map fun c => ⟨c, s.analysis, s.source.headerLines⟩

/-- The batch of some entries. -/
def batch (a : Analyzer) (entries : List Log.Entry) : Except Fault Batch :=
  Batch.ofEntries a.classifier a.settings.workers entries

/-- The greatest number of seconds that a span can count. -/
def maxSeconds : Nat := 9223372036854775

/-- The width of a time slice. A number of seconds that no span can count is refused. -/
def sliceWidth (seconds : Nat) : Except Fault Time.Span :=
  if maxSeconds < seconds then .error (.invalidInput (.widthTooLarge seconds))
  else .ok (Time.Span.ofMilliseconds (seconds * 1000))

/-- What comes of work that is done beside other work. A breach ends both of them at once; any other
fault is looked at when the other work is done. -/
def beside {α : Type} : Except Fault α → Except Fault (Except Fault α)
  | .error (.breach cause) => .error (.breach cause)
  | outcome => .ok outcome

/-- The analysis of a batch. The timeline is worked out beside the flow graph. -/
def analyzeBatch (a : Analyzer) (b : Batch) : Except Fault Analysis := do
  let width ← sliceWidth a.settings.sliceWidth
  let entries := b.queries.map LoggedQuery.entry
  let graph := Graph.ofQueries (b.queries.map LoggedQuery.classification)
  let sliced ← beside (slices entries width)
  let phases ← graph.phases
  let slices ← sliced
  let intervals := intervals entries
  return {
    intervals, slices, graph, phases
    queries := b.queries
    counts := b.counts
    longest := longest a.settings.longest intervals }

/-- The analysis of some entries: of the batch that is made of them. -/
def analyze (a : Analyzer) (entries : List Log.Entry) : Except Fault Analysis := do
  a.analyzeBatch (← a.batch entries)

/-- The analysis of the lines of a log, in either format. -/
def analyzeLines (a : Analyzer) (format : LogFormat) (lines : List Log.PhysicalLine) :
    Except Fault Analysis := do
  let entries ← match format with
    | .slow => Log.SlowLog.read a.headerLines lines
    | .history => Log.History.read lines
  a.analyze entries

/-- **The flow graph of an analysis is that of the kept queries.** The steps of the analysis are
taken apart one by one: none of them touches the graph. -/
theorem graph_of_analyze {a : Analyzer} {entries : List Log.Entry} {r : Analysis}
    (h : a.analyze entries = .ok r) :
    r.graph = Graph.ofQueries (r.queries.map LoggedQuery.classification) := by
  unfold analyze at h
  cases batch : a.batch entries with
  | error e => simp [batch, bind, Except.bind] at h
  | ok b =>
    simp only [batch, bind, Except.bind, analyzeBatch] at h
    split at h
    · nomatch h
    split at h
    · nomatch h
    split at h
    · nomatch h
    split at h
    · nomatch h
    injection h with h
    subst h
    rfl

end Analyzer

end QueryFlow
