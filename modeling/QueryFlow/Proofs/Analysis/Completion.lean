import QueryFlow.Analysis.Analyzer
import QueryFlow.Proofs.Analysis.Parts
import QueryFlow.Proofs.Flow.Cycle
import QueryFlow.Proofs.Timeline.Overrun

/-!
# What can come of an analysis

Sensible settings have a dialect, so that there is an analyzer, and a width of slices that spans can
count. No text ends the work on a batch, whatever it is. The flow graph then has phases or cycles,
and the timeline has slices, or one of them overruns: that is a breach, which comes before
everything else that is found out about the batch.

So there is one way in which an analysis fails apart from cycles. It takes a query that starts in
the leap second behind the last instant.

## How the proof goes

The steps of an analysis are followed in the order in which they are made, and each of them is asked
what can come of it.

* The analyzer: settings that are validated name a dialect, and readers of dialects are lenient.
* The batch: there is always one, by `exists_ofEntries`, as nothing but a fault of another kind than
  syntax would end the work.
* The width: validation has bounded it, so it can be counted.
* The slices: they are there or some slice overruns, by the results on overrunning slices. Whether
  one does is a condition on the starts and the width alone.
* The phases: they are there or the graph has cycles.

An overrun is a breach, and `beside` lets a breach through at once, so it is the answer even where
the graph has cycles; `analyze_eq_breach` says this for every breach of the timeline. If none
overruns, the slices are set aside and the phases decide: `analyze_outcome`.

## Main results

* `analyze_outcome`: what comes of an analysis, by what comes of its parts.
* `outcome_of_validate`: an analysis with sensible settings succeeds or reports cycles, unless a
  slice overruns.
* `not_completed_of_overrun`: and some slice does.
-/

namespace QueryFlow

open QueryFlow.Flow QueryFlow.Intent QueryFlow.Sql QueryFlow.Time QueryFlow.Timeline

namespace Analyzer

/-- **Sensible settings have an analyzer**, which reads a dialect and counts as the settings say. -/
theorem exists_ofSettings {s : Settings} (valid : s.validate = .ok ()) :
    ∃ a, ofSettings s = .ok a ∧ Lenient a.classifier.read ∧ a.settings = s.analysis := by
  obtain ⟨-, ⟨d, named⟩, -⟩ := Settings.validate_eq_ok_iff.1 valid
  exact ⟨⟨.withReader (readStatements d), s.analysis, s.source.headerLines⟩,
    by simp [ofSettings, Classifier.forDialect, dialectNamed, named, Except.map],
    lenient_readStatements d, rfl⟩

/-- Sensible widths can be counted: the bound that settings are checked against lies below the
greatest span. -/
theorem sliceWidth_of_validate {s : Settings} (valid : s.validate = .ok ()) :
    sliceWidth s.analysis.sliceWidth = .ok (.ofMilliseconds (s.analysis.sliceWidth * 1000)) := by
  obtain ⟨-, -, -, narrow, -⟩ := Settings.validate_eq_ok_iff.1 valid
  have countable : ¬ maxSeconds < s.analysis.sliceWidth := by
    simp only [Settings.maxSliceWidth, maxSeconds] at *
    omega
  rw [sliceWidth, if_neg countable]

section Outcome

variable {a : Analyzer} {entries : List Log.Entry} {b : Batch} {width : Span}
  (batch : a.batch entries = .ok b) (wide : sliceWidth a.settings.sliceWidth = .ok width)

include batch wide

/-- **A breach of the timeline comes before all other faults**: it is not looked at later, like a
fault, but ends the analysis where it happens. -/
theorem analyze_eq_breach {cause : Breach}
    (breach : slices (b.queries.map LoggedQuery.entry) width = .error (.breach cause)) :
    a.analyze entries = .error (.breach cause) := by
  simp only [analyze, batch, ok_bind, analyzeBatch, wide, breach, beside, error_bind]

/-- **An analysis with slices succeeds unless there are cycles**: nothing else is left that could
fail. -/
theorem analyze_outcome {ss : List Slice}
    (sliced : slices (b.queries.map LoggedQuery.entry) width = .ok ss) :
    (∃ r, a.analyze entries = .ok r) ∨ ∃ cycles, a.analyze entries = .error (.cyclic cycles) := by
  cases phases : (Graph.ofQueries (b.queries.map LoggedQuery.classification)).phases with
  | ok ps =>
      left
      simp only [analyze, batch, ok_bind, analyzeBatch, wide, sliced, beside, phases]
      exact ⟨_, rfl⟩
  | error fault =>
      right
      obtain ⟨-, rfl⟩ := Graph.phases_eq_error_iff.1 phases
      simp only [analyze, batch, ok_bind, analyzeBatch, wide, sliced, beside, phases, error_bind]
      exact ⟨_, rfl⟩

end Outcome

/-- **An analysis with sensible settings succeeds or reports cycles, unless a slice overruns**,
whatever the entries are. No text ends it, and a slice overruns only if a query that moves data
starts in the leap second behind the last instant. -/
theorem outcome_of_validate {s : Settings} (valid : s.validate = .ok ()) :
    ∃ a, ofSettings s = .ok a ∧ ∀ entries, ∃ b, a.batch entries = .ok b
      ∧ ((∃ k, Overruns (b.queries.map LoggedQuery.entry) (s.analysis.sliceWidth * 1000) k
            ∧ a.analyze entries = .error (.breach (.sliceUnnamed k))
            ∧ ∃ q ∈ b.queries, ∃ t, q.entry.start = some t ∧ Instant.last < t)
        ∨ (¬ ∃ k, Overruns (b.queries.map LoggedQuery.entry) (s.analysis.sliceWidth * 1000) k)
          ∧ ((∃ r, a.analyze entries = .ok r)
            ∨ ∃ cycles, a.analyze entries = .error (.cyclic cycles))) := by
  obtain ⟨a, made, lenient, settings⟩ := exists_ofSettings valid
  refine ⟨a, made, fun entries => ?_⟩
  obtain ⟨b, batch⟩ := Batch.exists_ofEntries lenient a.settings.workers entries
  have pos : 0 < s.analysis.sliceWidth := (Settings.validate_eq_ok_iff.1 valid).2.2.1
  have width : sliceWidth a.settings.sliceWidth
      = .ok (.ofMilliseconds (s.analysis.sliceWidth * 1000)) := by
    rw [settings]
    exact sliceWidth_of_validate valid
  refine ⟨b, batch, ?_⟩
  rcases slices_outcome (b.queries.map LoggedQuery.entry) (w := s.analysis.sliceWidth * 1000)
    (by omega) with ⟨k, overruns, failed⟩ | ⟨inside, ss, sliced⟩
  · refine .inl ⟨k, overruns, analyze_eq_breach batch width failed, ?_⟩
    obtain ⟨entry, member, t, start, past⟩ := last_lt_of_overruns overruns (by omega)
    obtain ⟨q, kept, rfl⟩ := List.mem_map.1 member
    exact ⟨q, kept, t, start, past⟩
  · exact .inr ⟨inside, analyze_outcome batch width sliced⟩

/-- The analyzer of the usual settings, written out for the runs below. -/
theorem ofSettings_usual (workers : Nat) :
    ofSettings (.usual workers)
      = .ok ⟨.withReader (readStatements .mysql), ⟨60, workers, 20⟩, 3⟩ := by
  have named : Dialect.ofName? "mysql" = some .mysql := Dialect.ofName?_name .mysql
  simp [ofSettings, Settings.usual, Classifier.forDialect, dialectNamed, named, Except.map]

/-- A query that starts half a second before the last instant is analysed with the usual settings,
beside a text that cannot be understood. -/
theorem outcome_of_last_second :
    ∃ (a : Analyzer) (entries : List Log.Entry) (t : Instant),
      (Settings.usual 4).validate = .ok () ∧ ofSettings (.usual 4) = .ok a
        ∧ entries.map (fun e => (e.start, e.sql))
          = [(some t, "create table b as select * from a"), (none, "select (")]
        ∧ t.day = lastDay ∧ t.second = 86399
        ∧ ((∃ r, a.analyze entries = .ok r)
          ∨ ∃ cycles, a.analyze entries = .error (.cyclic cycles)) := by
  let t : Instant := ⟨lastDay, 86399, 500000000, by decide, by decide, by decide⟩
  let entry : Log.Entry := { Log.Entry.blank with
    sql := "create table b as select * from a"
    start := some t }
  let entries := [entry, { Log.Entry.blank with sql := "select (" }]
  have valid : (Settings.usual 4).validate = .ok () := by decide +kernel
  obtain ⟨a, made, outcome⟩ := outcome_of_validate valid
  obtain rfl := Except.ok.inj (made.symm.trans (ofSettings_usual 4))
  obtain ⟨b, batch, what⟩ := outcome entries
  have computed : (Batch.ofEntries (.withReader (readStatements .mysql)) 4 entries).toOption.map
      Batch.queries = some [⟨entry, ⟨[.create ⟨"b", .singleton "a"⟩]⟩⟩] := by decide +kernel
  obtain ⟨b', batch', queries⟩ := toOption_map_eq_some_iff.1 computed
  obtain rfl : b = b' := Except.ok.inj (batch.symm.trans batch')
  rcases what with ⟨-, -, -, q, kept, u, start, past⟩ | ⟨-, done⟩
  · rw [queries, List.mem_singleton] at kept
    subst kept
    obtain rfl : t = u := Option.some.inj start
    exact absurd past (by decide +kernel)
  · exact ⟨_, entries, t, valid, made, rfl, rfl, rfl, done⟩

/-- **Some analysis is not completed**: the second of two slices would start behind the last
instant, since a query starts in the leap second there. -/
theorem not_completed_of_overrun :
    ¬ ∀ s : Settings, s.validate = .ok () → ∃ a, ofSettings s = .ok a ∧ ∀ entries,
      (∃ r, a.analyze entries = .ok r) ∨ ∃ cycles, a.analyze entries = .error (.cyclic cycles) := by
  intro claim
  obtain ⟨a, made, outcome⟩ := claim (.usual 4) (by decide +kernel)
  obtain rfl := Except.ok.inj (made.symm.trans (ofSettings_usual 4))
  let t : Instant := ⟨lastDay, 86340, 500000000, by decide, by decide, by decide⟩
  let u : Instant := ⟨lastDay, 86399, 1900000000, by decide, by decide, by decide⟩
  let first : Log.Entry := { Log.Entry.blank with
    sql := "insert into a select * from b"
    start := some t }
  let second : Log.Entry := { Log.Entry.blank with
    sql := "insert into b select * from a"
    start := some u }
  let analyzer : Analyzer := ⟨.withReader (readStatements .mysql), ⟨60, 4, 20⟩, 3⟩
  have computed : (analyzer.batch [first, second]).toOption.map
      (fun b => b.queries.map LoggedQuery.entry) = some [first, second] := by decide +kernel
  obtain ⟨b, batch, queries⟩ := toOption_map_eq_some_iff.1 computed
  have timeline : intervals [first, second] = [⟨0, t, t⟩, ⟨1, u, u⟩] :=
    intervals_eq_of_pairwise (by decide +kernel) (by decide +kernel)
  have breach : slices (b.queries.map LoggedQuery.entry) (.ofMilliseconds (60 * 1000))
      = .error (.breach (.sliceUnnamed 1)) := by
    simp only [queries, slices, timeline]
    decide +kernel
  have width : sliceWidth analyzer.settings.sliceWidth = .ok (.ofMilliseconds (60 * 1000)) := by
    decide +kernel
  have failed := analyze_eq_breach batch width breach
  rcases outcome [first, second] with ⟨r, succeeded⟩ | ⟨cycles, cyclic⟩
  · cases failed.symm.trans succeeded
  · cases failed.symm.trans cyclic

end Analyzer

end QueryFlow
