import QueryFlow.Proofs.Intent.Movement

/-!
# What is kept is what has a target

Whether a statement moves data and what it writes to are said in two places, context by context, and
a batch keeps what moves data while a graph gets nodes for what is read and written. The two agree,
so nothing that would have had an edge is left out, and nothing that is kept goes nowhere.

## How the proof goes

One direction is `exists_target_of_classify`. The other one does not follow from the contexts one by
one: if a statement had several contexts, one of them could have sources while another made it move
data. But of the standard predicates at most one finds a context in a statement. They look for
statements of different constructors, so `length_filterMap_standard` has one case for each
constructor and computes in each of them. A text with a single context moves data exactly if that
context does, and a context that does not move data has neither sources nor targets. An insertion of
values is the case to look at: it names a table, and is still idle on both sides.

## Main results

* `length_contexts_of_classify`: a text has at most one context.
* `movesData_iff_of_classify`: a text moves data if and only if it has a target.
* `idle_of_classify`: a text that moves no data has no sources and no targets.
-/

namespace QueryFlow

namespace Context

/-- **A context that moves no data has neither sources nor targets.** One case for each kind of
context. -/
theorem idle_of_not_moves {context : Context} (still : context.moves = false) :
    context.sources = .empty ∧ context.targets = .empty := by
  cases context with
  | maintenance => exact ⟨rfl, rfl⟩
  | lookup _ => exact ⟨rfl, rfl⟩
  | insert i =>
      have none : i.sources.isEmpty = true := by simpa [moves] using still
      have empty : i.sources = .empty := NameSet.ext fun name => by
        have : i.sources.toList = [] := List.isEmpty_iff.1 none
        simp [← NameSet.mem_toList, this, NameSet.empty]
      exact ⟨empty, by simp [targets, none]⟩
  | create _ => simp [moves] at still
  | unload _ => simp [moves] at still
  | copy _ => simp [moves] at still

end Context

namespace Classification

variable {c : Classification}

/-- A statement with a single context moves data if the context does. -/
theorem movesData_singleton (context : Context) :
    (⟨[context]⟩ : Classification).movesData = context.moves := by
  cases context <;> simp [movesData, insertsRows, insertion?, creation?, unloading?, copying?,
    Context.insertion?, Context.creation?, Context.unloading?, Context.copying?, Context.moves]

/-- A statement with no context, or with a single one that moves no data, reads nothing and writes
nothing. -/
theorem idle_of_not_movesData (single : c.contexts.length ≤ 1) (still : c.movesData = false) :
    c.sources = .empty ∧ c.targets = .empty := by
  obtain ⟨contexts⟩ := c
  match contexts, single with
  | [], _ => exact ⟨rfl, rfl⟩
  | [context], _ =>
      rw [movesData_singleton] at still
      obtain ⟨sources, targets⟩ := Context.idle_of_not_moves still
      exact ⟨NameSet.ext fun name => by simp [mem_sources, sources],
        NameSet.ext fun name => by simp [mem_targets, targets]⟩

end Classification

namespace Intent

open QueryFlow.Sql

/-- What the standard predicates find in a statement, predicate by predicate. So the case analysis
below opens the predicates and not the list of them. -/
theorem filterMap_standard (s : Statement) :
    Predicate.standard.filterMap (Predicate.find? · s)
      = (maintenance? s).toList ++ (lookup? s).toList ++ (insertion? s).toList
        ++ (creation? s).toList ++ (unloading? s).toList ++ (copying? s).toList := by
  have asked (p : Predicate) (others : List Predicate) :
      (p :: others).filterMap (Predicate.find? · s)
        = (p.find? s).toList ++ others.filterMap (Predicate.find? · s) := by
    cases found : p.find? s <;> simp [found]
  simp only [Predicate.standard, asked, List.filterMap_nil, List.append_nil, List.append_assoc]

/-- **The standard predicates exclude each other**: each of them looks for a kind of statement of
its own. -/
theorem length_filterMap_standard (s : Statement) :
    (Predicate.standard.filterMap (Predicate.find? · s)).length ≤ 1 := by
  rw [filterMap_standard]
  cases s with
  | insert target source others =>
      cases target <;> simp [maintenance?, lookup?, insertion?, creation?, unloading?, copying?]
  | createTable name query =>
      cases query <;> simp [maintenance?, lookup?, insertion?, creation?, unloading?, copying?]
  | _ => simp [maintenance?, lookup?, insertion?, creation?, unloading?, copying?]

section Classified

variable {read : String → Except Fault (List Statement)} {text : String} {c : Classification}
  (classified : (Classifier.withReader read).classify text = .ok c)

include classified

/-- **A text has at most one context**, however it is recognised: by its text, by the query that it
unloads, or by the standard predicates. -/
theorem length_contexts_of_classify : c.contexts.length ≤ 1 := by
  unfold Classifier.classify Classifier.classifyTrimmed at classified
  split at classified
  · injection classified with same
    simp [← same, Classification.maintenance]
  split at classified
  · injection classified with same
    simp [← same]
  split at classified
  · obtain ⟨statements, -, classified⟩ := bind_eq_ok_iff.1 classified
    split at classified
    · injection classified with same
      simp [← same]
    · cases classified
  · obtain ⟨statements, -, classified⟩ := bind_eq_ok_iff.1 classified
    split at classified
    · next s _ =>
      injection classified with same
      exact same ▸ length_filterMap_standard s
    · cases classified

/-- **A text that moves no data has no sources and no targets**, so nothing is lost with it. -/
theorem idle_of_classify (still : c.movesData = false) :
    c.sources = .empty ∧ c.targets = .empty :=
  Classification.idle_of_not_movesData (length_contexts_of_classify classified) still

/-- **A text moves data if and only if it has a target.** A target needs a context that moves data,
and such a context has one. -/
theorem movesData_iff_of_classify (sane : Sane read) :
    c.movesData = true ↔ c.targets ≠ .empty := by
  constructor
  · intro moves empty
    obtain ⟨name, target⟩ := exists_target_of_classify sane classified moves
    simp [empty] at target
  · intro some
    cases still : c.movesData with
    | true => rfl
    | false => exact absurd (idle_of_classify classified still).2 some

end Classified

end Intent

end QueryFlow
