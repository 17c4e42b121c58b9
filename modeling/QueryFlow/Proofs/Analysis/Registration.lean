import QueryFlow.Proofs.Analysis.Batch
import QueryFlow.Proofs.Analysis.Parts
import QueryFlow.Proofs.Intent.Recognition

/-!
# One more predicate

A classifier that asks one more predicate finds what it found before, and at most one context more,
at the end. A text that is recognised is not shown to the predicates at all, and a text that is
refused is refused before they are asked.

What is said of a statement is either said because some context is there, or taken from the first
context of a kind, or put together from all contexts. In each case contexts at the end take nothing
away. A new context of a kind that was there already is not the first one of its kind, but it does
add to what the statement reads and writes.

## How the proof goes

The contexts of a statement are a list, and the new ones are a list of which the old ones are the
first part. `Classification.Extends` is this relation, and everything that a batch or a graph asks
of a classification is monotone in it: questions that some context answers, first answers, and
unions. The structure `Retains` names these questions, and `Extends.retains` answers each of them
from one lemma for its kind, so nothing is proved for a single question.

What registration does to a text is said by `classify_register_cases`: it stays as it was, or one
context is found at the end. From there batches follow without another induction: a batch is what is
kept of the entries, kept entries are those whose statements move data, and moving data is one of
the questions above. That the queries which were kept are still kept is a `filter` whose condition
has become weaker.

## Main results

* `Classification.Extends.retains`: what contexts at the end leave as it was.
* `Classifier.classify_register_cases`: what one more predicate does to what is found in a text.
* `Batch.entries_register`: a query that was kept is still kept.
* `Classifier.register_retains`: all of this, for any predicates that were registered before.
-/

namespace QueryFlow

open Intent

/-! ### More contexts at the end -/

namespace Classification

variable {c c' : Classification}

/-- A classification goes on behind another one: the contexts of the first are the first contexts of
the second. -/
def Extends (c c' : Classification) : Prop := c.contexts <+: c'.contexts

/-- What is said of a statement is still said of it, question by question. -/
structure Retains (c c' : Classification) : Prop where
  kinds : c.kinds <+: c'.kinds
  isMaintenance : c.isMaintenance = true → c'.isMaintenance = true
  isLookup : c.isLookup = true → c'.isLookup = true
  insertsRows : c.insertsRows = true → c'.insertsRows = true
  movesData : c.movesData = true → c'.movesData = true
  insertion : ∀ found, c.insertion? = some found → c'.insertion? = some found
  creation : ∀ found, c.creation? = some found → c'.creation? = some found
  unloading : ∀ found, c.unloading? = some found → c'.unloading? = some found
  copying : ∀ found, c.copying? = some found → c'.copying? = some found
  sources : ∀ name ∈ c.sources, name ∈ c'.sources
  targets : ∀ name ∈ c.targets, name ∈ c'.targets

namespace Extends

/-- A question that some context answers is still answered. -/
theorem any (more : c.Extends c') {p : Context → Bool} (found : c.contexts.any p = true) :
    c'.contexts.any p = true := by
  obtain ⟨context, member, here⟩ := List.any_eq_true.1 found
  exact List.any_eq_true.2 ⟨context, more.mem member, here⟩

/-- The first context of a kind stays the first one. -/
theorem findSome? {α : Type} (more : c.Extends c') {f : Context → Option α} {a : α}
    (found : c.contexts.findSome? f = some a) : c'.contexts.findSome? f = some a :=
  List.IsPrefix.findSome?_eq_some more found

/-- Rows that were inserted still are: the first insertion is the same. -/
theorem insertsRows (more : c.Extends c') (rows : c.insertsRows = true) :
    c'.insertsRows = true := by
  obtain ⟨i, found, here⟩ := (Option.any_eq_true ..).1 rows
  exact (Option.any_eq_true ..).2 ⟨i, more.findSome? found, here⟩

/-- A kind that has a first context still has one. -/
theorem isSome {α : Type} (more : c.Extends c') {f : Context → Option α}
    (found : (c.contexts.findSome? f).isSome = true) :
    (c'.contexts.findSome? f).isSome = true := by
  obtain ⟨a, first⟩ := Option.isSome_iff_exists.1 found
  exact Option.isSome_iff_exists.2 ⟨a, more.findSome? first⟩

/-- What moves data still does. -/
theorem movesData (more : c.Extends c') (moves : c.movesData = true) : c'.movesData = true := by
  simp only [Classification.movesData, Bool.or_eq_true] at moves ⊢
  exact moves.imp (Or.imp (Or.imp more.insertsRows more.isSome) more.isSome) more.isSome

/-- **Contexts at the end take nothing away**, whichever question is asked. -/
theorem retains (more : c.Extends c') : c.Retains c' where
  kinds := List.IsPrefix.map _ more
  isMaintenance := more.any
  isLookup := more.any
  insertsRows := more.insertsRows
  movesData := more.movesData
  insertion _ := more.findSome?
  creation _ := more.findSome?
  unloading _ := more.findSome?
  copying _ := more.findSome?
  sources name read := by
    obtain ⟨context, member, here⟩ := mem_sources.1 read
    exact mem_sources.2 ⟨context, more.mem member, here⟩
  targets name written := by
    obtain ⟨context, member, here⟩ := mem_targets.1 written
    exact mem_targets.2 ⟨context, more.mem member, here⟩

end Extends

end Classification

/-! ### One more predicate -/

namespace Intent

open QueryFlow.Text

namespace Classifier

variable {c : Classifier} {p : Predicate} {text : String}

/-- A recognised text is not shown to the predicates. -/
theorem classify_of_recognised (recognised : Recognised (trim text)) :
    (c.register p).classify text = c.classify text := by
  simp only [classify, classifyTrimmed_eq_findSome?]
  have ways : (c.register p).ways = c.ways := rfl
  obtain ⟨found, way⟩ : ∃ found, c.ways.findSome? (· (trim text)) = some found := by
    rw [← Option.isSome_iff_exists, List.findSome?_isSome_iff]
    rcases recognised with note | copy | unload
    · exact ⟨noted?, by simp [Classifier.ways], by simp [noted?, note]⟩
    · exact ⟨copied?, by simp [Classifier.ways], by simpa [copied?] using copy⟩
    · exact ⟨c.unloaded?, by simp [Classifier.ways], by simpa [unloaded?] using unload⟩
  rw [ways, way, Option.getD_some, Option.getD_some]

/-- A text that is not recognised is read. -/
theorem classify_of_not_recognised (unknown : ¬ Recognised (trim text)) :
    c.classify text = c.classifyParsed (trim text) := by
  rw [not_recognised_iff] at unknown
  simp only [classify, classifyTrimmed, unknown]
  rfl

/-- What one more predicate does to what is found in the first statement of a text. -/
theorem classifyParsed_register_cases :
    (c.register p).classifyParsed text = c.classifyParsed text
      ∨ ∃ found context, c.classifyParsed text = .ok found
        ∧ (c.register p).classifyParsed text = .ok ⟨found.contexts ++ [context]⟩ := by
  cases given : c.read text with
  | error fault => exact .inl (by simp only [classifyParsed, register, given, error_bind])
  | ok statements =>
      cases statements with
      | nil => exact .inl (by simp only [classifyParsed, register, given, ok_bind, List.head?_nil])
      | cons s rest =>
          have parsed (c' : Classifier) (same : c'.read = c.read) :
              c'.classifyParsed text = .ok (c'.classifyStatement s) := by
            simp only [classifyParsed, same, given, ok_bind, List.head?_cons]
            rfl
          have longer := classifyStatement_register c p s
          rw [parsed c rfl, parsed (c.register p) rfl]
          cases found : p.find? s with
          | none =>
              rw [found, Option.toList_none, List.append_nil] at longer
              exact .inl (congrArg Except.ok ((Classification.mk.injEq ..).mpr longer))
          | some context =>
              rw [found, Option.toList_some] at longer
              exact .inr ⟨_, context, rfl,
                congrArg Except.ok ((Classification.mk.injEq ..).mpr longer)⟩

/-- **One more predicate finds at most one context more**, at the end, and only in a text that is
not recognised. -/
theorem classify_register_cases (c : Classifier) (p : Predicate) (text : String) :
    (c.register p).classify text = c.classify text
      ∨ ∃ found context, c.classify text = .ok found
        ∧ (c.register p).classify text = .ok ⟨found.contexts ++ [context]⟩ := by
  by_cases recognised : Recognised (trim text)
  · exact .inl (classify_of_recognised recognised)
  · simp only [classify_of_not_recognised recognised]
    exact classifyParsed_register_cases

/-- One more predicate neither adds a fault nor takes one away. -/
theorem classify_register_eq_error_iff {fault : Fault} :
    (c.register p).classify text = .error fault ↔ c.classify text = .error fault := by
  rcases classify_register_cases c p text with same | ⟨_, _, found, longer⟩
  · rw [same]
  · simp [found, longer]

/-- What is found is found with one more predicate too, and perhaps more behind it. -/
theorem exists_classify_register {found : Classification}
    (classified : c.classify text = .ok found) :
    ∃ (found' : Classification) (more : Option Context), (c.register p).classify text = .ok found'
      ∧ found'.contexts = found.contexts ++ more.toList := by
  rcases classify_register_cases c p text with same | ⟨_, context, known, longer⟩
  · exact ⟨found, none, same.trans classified, by simp⟩
  · obtain rfl := Except.ok.inj (known.symm.trans classified)
    exact ⟨_, some context, longer, by simp⟩

end Classifier

end Intent

/-! ### Batches -/

namespace Batch

variable {c : Classifier} {p : Predicate} {workers : Nat} {entries : List Log.Entry} {b b' : Batch}

/-- A batch keeps the entries whose statements move data. -/
theorem entries_ofEntries (made : ofEntries c workers entries = .ok b) :
    b.queries.map LoggedQuery.entry
      = entries.filter fun entry =>
        (c.classify entry.sql).toOption.any Classification.movesData := by
  rw [queries_ofEntries made, List.map_filterMap, ← List.filterMap_eq_filter]
  refine List.filterMap_congr fun entry _ => ?_
  cases classified : c.classify entry.sql with
  | error _ => simp [kept, Except.toOption, Option.guard, classified]
  | ok found =>
      cases moves : found.movesData <;>
        simp [kept, Except.toOption, Option.guard, classified, moves]

/-- **A query that was kept is still kept** if one more predicate is asked, and the order of those
that were kept is the same. -/
theorem entries_register (made : ofEntries c workers entries = .ok b)
    (made' : ofEntries (c.register p) workers entries = .ok b') :
    (b.queries.map LoggedQuery.entry).Sublist (b'.queries.map LoggedQuery.entry) := by
  rw [entries_ofEntries made, entries_ofEntries made']
  refine List.monotone_filter_right entries fun entry understood => ?_
  obtain ⟨found, classified, moves⟩ := (Option.any_eq_true ..).1 understood
  obtain ⟨found', more, longer, contexts⟩ :=
    Classifier.exists_classify_register (p := p) (toOption_eq_some_iff.1 classified)
  have behind : found.Extends found' := ⟨more.toList, contexts.symm⟩
  exact (Option.any_eq_true ..).2 ⟨found', toOption_eq_some_iff.2 longer, behind.movesData moves⟩

/-- One more predicate does not end the work on a batch, nor let it go on. -/
theorem ofEntries_register_eq_error_iff {fault : Fault} :
    ofEntries (c.register p) workers entries = .error fault
      ↔ ofEntries c workers entries = .error fault := by
  simp only [ofEntries_eq, takeAll_eq_error_iff, FirstFault,
    Classifier.classify_register_eq_error_iff]

end Batch

open Batch

/-- **One more predicate takes nothing away**, whatever predicates were registered before. What is
recognised or refused stays as it was; to what is found in any other text at most one context is
added, at the end, so that everything that was said of the statement is still said. The work on a
batch ends at the same fault or at none, and every query that was kept is still kept. -/
theorem Intent.Classifier.register_retains (c : Classifier) (ps : List Predicate) (p : Predicate) :
    let before := ps.foldl register c
    let after := before.register p
    (∀ text, Recognised (Text.trim text) → after.classify text = before.classify text)
      ∧ (∀ text fault, after.classify text = .error fault ↔ before.classify text = .error fault)
      ∧ (∀ text found, before.classify text = .ok found →
          ∃ (found' : Classification) (more : Option Context), after.classify text = .ok found'
            ∧ found'.contexts = found.contexts ++ more.toList ∧ found.Retains found')
      ∧ ∀ workers entries,
          (∀ fault, ofEntries after workers entries = .error fault
            ↔ ofEntries before workers entries = .error fault)
          ∧ ∀ b, ofEntries before workers entries = .ok b →
            ∃ b', ofEntries after workers entries = .ok b'
              ∧ (b.queries.map LoggedQuery.entry).Sublist (b'.queries.map LoggedQuery.entry) := by
  intro before after
  refine ⟨fun text => classify_of_recognised, fun text fault => classify_register_eq_error_iff,
    fun text found classified => ?_, fun workers entries =>
      ⟨fun fault => ofEntries_register_eq_error_iff, fun b made => ?_⟩⟩
  · obtain ⟨found', more, longer, contexts⟩ := exists_classify_register classified
    have behind : found.Extends found' := ⟨more.toList, contexts.symm⟩
    exact ⟨found', more, longer, contexts, behind.retains⟩
  · cases made' : ofEntries after workers entries with
    | error fault =>
        rw [ofEntries_register_eq_error_iff.1 made'] at made
        cases made
    | ok b' => exact ⟨b', rfl, entries_register made made'⟩

/-- A second insertion is found behind the first one, which still counts. A query that only read is
kept because of it. -/
theorem Intent.Classifier.register_retains_of_insertion :
    ∃ (before : Classifier) (p : Predicate) (found found' : Classification)
      (entries : List Log.Entry) (b b' : Batch),
      (before.register p).classify " vacuum t" = before.classify " vacuum t"
        ∧ before.classify "insert" = .ok found
        ∧ found.contexts = [.insert ⟨"c", .singleton "b"⟩, .lookup .empty]
        ∧ (before.register p).classify "insert" = .ok found'
        ∧ found'.contexts = found.contexts ++ [.insert ⟨"e", .singleton "d"⟩]
        ∧ found.Retains found'
        ∧ ofEntries before 2 entries = .ok b ∧ b.queries.length = 1
        ∧ ofEntries (before.register p) 2 entries = .ok b' ∧ b'.queries.length = 2
        ∧ (b.queries.map LoggedQuery.entry).Sublist (b'.queries.map LoggedQuery.entry) := by
  let name (text : String) : Sql.ObjectName := [⟨text, none⟩]
  let rows : Sql.Query := .ofBody (.select [] [.mk (.table (name "b") [] none) []] [])
  let read (text : String) : Except Fault (List Sql.Statement) :=
    .ok [if text = "insert" then .insert (.table (name "c")) (some rows) [] else .query rows]
  let reads : Predicate := ⟨"reads", fun _ => some (.lookup .empty)⟩
  let fills : Predicate := ⟨"fills", fun _ => some (.insert ⟨"e", .singleton "d"⟩)⟩
  let before : Classifier := [reads].foldl Classifier.register (.withReader read)
  let entries := ["insert", "select"].map fun text => { Log.Entry.blank with sql := text }
  obtain ⟨recognised, -, retains, kept⟩ := register_retains (.withReader read) [reads] fills
  have first : before.classify "insert"
      = .ok ⟨[.insert ⟨"c", .singleton "b"⟩, .lookup .empty]⟩ := by
    decide +kernel
  have second : (before.register fills).classify "insert" = .ok
      ⟨[.insert ⟨"c", .singleton "b"⟩, .lookup .empty, .insert ⟨"e", .singleton "d"⟩]⟩ := by
    decide +kernel
  have one : (ofEntries before 2 entries).map (fun b => b.queries.length) = .ok 1 := by
    decide +kernel
  have two : (ofEntries (before.register fills) 2 entries).map (fun b => b.queries.length)
      = .ok 2 := by
    decide +kernel
  obtain ⟨found', -, longer, -, still⟩ := retains "insert" _ first
  obtain rfl := Except.ok.inj (longer.symm.trans second)
  obtain ⟨b, made, length⟩ := map_eq_ok_iff.1 one
  obtain ⟨b', made', sublist⟩ := (kept 2 entries).2 b made
  obtain ⟨_, made'', length'⟩ := map_eq_ok_iff.1 two
  obtain rfl := Except.ok.inj (made''.symm.trans made')
  exact ⟨before, fills, _, _, entries, b, _, recognised " vacuum t" (by decide +kernel), first, rfl,
    second, rfl, still, made, length, made', length', sublist⟩

end QueryFlow
