import QueryFlow.Intent.Classifier
import QueryFlow.Proofs.Outcome
import QueryFlow.Proofs.Text.Matching

/-!
# What moves data has a target

A statement that moves data writes to some table or place. Most contexts name one of their own: an
insertion its table, a creation the new one, an unloading and a copy to the outside their place. A
copy into tables has the tables as its targets, and a statement that copied into a query would have
those that the query reads, perhaps none. The data types do not rule such a statement out, and the
grammar never gives one, so it is a condition on readers here: `Sane`.

## How the proof goes

Moving data and having targets are both said context by context, and neither definition mentions the
other. `Context.moves` names the contexts that count for moving data; a *grounded* context is one
that has somewhere to go if it is a copy into tables. The proof then has three steps, each of them a
case analysis with one case for every constructor.

* A grounded context that moves data has a target: `exists_target_of_moves`.
* A classification that moves data has a context that does, since `movesData` is a disjunction of
  four questions, each asked of one kind of context: `exists_moves_of_movesData`.
* What a classifier finds is grounded: what the text alone gives away is a copy into a named table
  or no copy into tables at all, and of the standard predicates only that for copies has anything to
  show, where the reader is sane.

## Main results

* `exists_target_of_moves`: a grounded context that moves data has a target.
* `grounded_of_classify`: all contexts that the standard predicates find are grounded.
* `exists_target_of_classify`: what is classified as moving data has a target.
-/

namespace QueryFlow

namespace Context

/-- The context is one of moving data. This is the disjunction that a classification asks, said of a
single context. -/
def moves : Context → Bool
  | maintenance => false
  | lookup _ => false
  | insert i => !i.sources.isEmpty
  | create _ => true
  | unload _ => true
  | copy _ => true

/-- A copy into tables has a table that it goes to. Contexts of all other kinds name their target
themselves, or have none. -/
def Grounded : Context → Prop
  | copy c => c.direction = .inward → ∃ name, name ∈ c.tables
  | _ => True

/-- **A grounded context that moves data has a target.** -/
theorem exists_target_of_moves {context : Context} (grounded : context.Grounded)
    (moves : context.moves = true) : ∃ name, name ∈ context.targets := by
  cases context with
  | maintenance => simp [Context.moves] at moves
  | lookup _ => simp [Context.moves] at moves
  | insert i =>
      have some : i.sources.isEmpty = false := by simpa [Context.moves] using moves
      exact ⟨i.target, by simp [targets, some]⟩
  | create c => exact ⟨c.target, by simp [targets]⟩
  | unload u => exact ⟨u.location, by simp [targets]⟩
  | copy c =>
      obtain ⟨direction, tables, location⟩ := c
      cases direction with
      | inward => exact grounded rfl
      | outward => exact ⟨location, by simp [targets]⟩

end Context

namespace Classification

/-- A statement moves data because of one of its contexts: each of the four questions that are asked
has been answered by a context that is found. -/
theorem exists_moves_of_movesData {c : Classification} (moves : c.movesData = true) :
    ∃ context ∈ c.contexts, context.moves = true := by
  simp only [movesData, insertsRows, creation?, unloading?, copying?, insertion?, Bool.or_eq_true,
    Option.any_eq_true, List.findSome?_isSome_iff] at moves
  rcases moves with ((⟨i, found, rows⟩ | ⟨context, member, is⟩) | ⟨context, member, is⟩)
    | ⟨context, member, is⟩
  · obtain ⟨context, member, is⟩ := List.exists_of_findSome?_eq_some found
    refine ⟨context, member, ?_⟩
    cases context <;> simp_all [Context.insertion?, Context.moves]
  all_goals
    refine ⟨context, member, ?_⟩
    cases context <;>
      simp_all [Context.creation?, Context.unloading?, Context.copying?, Context.moves]

/-- Whatever moves data has a target, if its contexts are grounded. -/
theorem exists_target_of_movesData {c : Classification}
    (grounded : ∀ context ∈ c.contexts, context.Grounded) (moves : c.movesData = true) :
    ∃ name, name ∈ c.targets := by
  obtain ⟨context, member, moves⟩ := exists_moves_of_movesData moves
  obtain ⟨name, target⟩ := Context.exists_target_of_moves (grounded context member) moves
  exact ⟨name, mem_targets.2 ⟨context, member, target⟩⟩

end Classification

namespace Intent

open QueryFlow.Sql QueryFlow.Text

/-- The statement copies rows from outside into a query, which is no place for rows. -/
def CopiesIntoQuery (s : Statement) : Prop := ∃ query place, s = .copy (.query query) place false

/-- No statement that a reader gives copies rows into a query. All readers of the dialects are sane,
and nothing else is asked of a reader here. -/
def Sane (read : String → Except Fault (List Statement)) : Prop :=
  ∀ text statements, read text = .ok statements → ∀ s ∈ statements, ¬ CopiesIntoQuery s

/-- A copy that is recognised by its text goes to a table: the one that stands between its keywords.
-/
theorem exists_table_of_warehouseCopy? {text : String} {copy : Copying}
    (h : warehouseCopy? text = some copy) : ∃ name, name ∈ copy.tables := by
  obtain ⟨rest, -, h⟩ := Option.bind_eq_some_iff.1 h
  obtain ⟨_, rest, -, -, -, h⟩ := exists_of_repeated1 h
  obtain ⟨table, rest, -, -, -, h⟩ := exists_of_repeated1 h
  obtain ⟨_, rest, -, -, h⟩ := exists_of_repeated h
  obtain ⟨location, -, rfl⟩ := Option.map_eq_some_iff.1 h
  exact ⟨normalize (String.ofList table), by simp⟩

/-- A copy that is read goes to a table, unless it copies rows into a query. -/
theorem grounded_of_copying? {s : Statement} (sane : ¬ CopiesIntoQuery s) {context : Context}
    (found : copying? s = some context) : context.Grounded := by
  unfold copying? at found
  split at found
  · next copied place outward =>
    injection found with found
    subst found
    intro inward
    cases copied with
    | table name => exact ⟨name.normalized, by simp [copiedTables]⟩
    | query query =>
        cases outward with
        | true => cases inward
        | false => exact absurd ⟨query, place, rfl⟩ sane
  · cases found

/-- The contexts that the standard predicates find in a statement are grounded, unless it copies
rows into a query. -/
theorem grounded_of_standard {s : Statement} (sane : ¬ CopiesIntoQuery s) {p : Predicate}
    (asked : p ∈ Predicate.standard) {context : Context} (found : p.find? s = some context) :
    context.Grounded := by
  simp only [Predicate.standard, List.mem_cons, List.not_mem_nil, or_false] at asked
  rcases asked with rfl | rfl | rfl | rfl | rfl | rfl
  case inr.inr.inr.inr.inr => exact grounded_of_copying? sane found
  all_goals
    simp only [maintenance?, lookup?, insertion?, creation?, unloading?] at found
    split at found
    · injection found with found
      subst found
      trivial
    · cases found

/-- **All contexts that the standard predicates find are grounded**, whichever way the text was
recognised. -/
theorem grounded_of_classify {read : String → Except Fault (List Statement)} (sane : Sane read)
    {text : String} {c : Classification}
    (classified : (Classifier.withReader read).classify text = .ok c) :
    ∀ context ∈ c.contexts, context.Grounded := by
  unfold Classifier.classify Classifier.classifyTrimmed at classified
  split at classified
  · injection classified with same
    subst same
    simp [Classification.maintenance, Context.Grounded]
  split at classified
  · next copy recognised =>
    injection classified with same
    subst same
    simpa [Context.Grounded] using fun _ => exists_table_of_warehouseCopy? recognised
  split at classified
  · next query location _ =>
    obtain ⟨statements, -, classified⟩ := bind_eq_ok_iff.1 classified
    split at classified
    · injection classified with same
      subst same
      simp [Context.Grounded]
    · cases classified
  · obtain ⟨statements, given, classified⟩ := bind_eq_ok_iff.1 classified
    split at classified
    · next s first =>
      injection classified with same
      subst same
      intro context member
      obtain ⟨p, asked, found⟩ := List.mem_filterMap.1 member
      exact grounded_of_standard (sane _ _ given s (List.mem_of_head? first)) asked found
    · cases classified

/-- **What is classified as moving data has a target**: a table, or a place outside. -/
theorem exists_target_of_classify {read : String → Except Fault (List Statement)}
    (sane : Sane read) {text : String} {c : Classification}
    (classified : (Classifier.withReader read).classify text = .ok c) (moves : c.movesData = true) :
    ∃ name, name ∈ c.targets :=
  Classification.exists_target_of_movesData (grounded_of_classify sane classified) moves

end Intent

end QueryFlow
