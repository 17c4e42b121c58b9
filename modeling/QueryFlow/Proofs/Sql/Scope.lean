import Mathlib.Logic.Basic
import QueryFlow.Sql.Relations

/-!
# What `WITH` binds

A `WITH` clause binds the names that it defines in the body of its query and behind it. In the query
of one of its names it binds the names before that one, and all of them if it is recursive. A name
of several parts is never bound. What a query *reads* are the tables that it names where no clause
binds the name.

The sources of a query are not computed like this: they leave out the names of its own clause, and
only those, wherever they stand. So a name that is bound by a clause further inside is a source, and
a table that has the name of a clause's query is none, even where that query reads it.

## How the proof goes

`Query.references` is a second traversal of the syntax trees, which keeps with each table the names
that are bound where it stands. A clause adds its names to the scope of every reference below it
(`Reference.under`), so each part of a tree is traversed once, without a scope handed down.

* Forgetting the scopes gives the tables that the query names: `tables_references`, by mutual
  induction over all kinds of trees at once, with one case for each constructor. Sources are
  therefore said in terms of references.
* `innerReferences` are the references of the parts of a query, before its own clause has bound
  anything. A reference of the query is one of these with more names bound: all of the clause, or,
  in the query of one of its names, those before it (`exists_innerReference`, by splitting the
  clause at that name).
* So a reference outside the names of the clause is bound if and only if a clause further inside
  binds it, and `mem_sources_iff` follows.

In a *plain* query no clause further inside binds anything, and its own names are used only where
they are bound. Then what the sources leave out is what the clause binds.

## Main results

* `tables_references`: the references of a query are to the tables that it names.
* `mem_sources_iff`: a source is a name that is read, or bound by a clause further inside, and that
  the query's own clause does not define.
* `mem_sources_iff_reads`: the sources of a query are what it reads if there is no other clause and
  no name is used before it is defined.
* `not_mem_sources_iff_reads`: else they may be others.
-/

namespace QueryFlow.Sql

/-! ### References -/

/-- A table that is named at some place, with the names that are bound there. -/
structure Reference where
  /-- The name of the table as it is written, with all its parts. -/
  table : ObjectName
  /-- The names that the clauses around the table bind, those further inside first. -/
  scope : List String
deriving DecidableEq

namespace Reference

/-- The name of the table, in the form in which names are compared. -/
def name (r : Reference) : String := r.table.normalized

/-- The reference at a place where more names are bound. -/
def under (names : List String) (r : Reference) : Reference := { r with scope := r.scope ++ names }

/-- The name is bound: it has a single part, and a clause around it defines that. -/
def isBound (r : Reference) : Bool := r.table.length == 1 && r.scope.contains r.name

@[simp] theorem table_under (names : List String) (r : Reference) :
    (r.under names).table = r.table := rfl

@[simp] theorem name_under (names : List String) (r : Reference) :
    (r.under names).name = r.name := rfl

/-- A reference is bound if its name is bound further inside or outside. -/
theorem isBound_under {names : List String} {r : Reference} :
    (r.under names).isBound = true ↔
      r.isBound = true ∨ r.table.length = 1 ∧ r.name ∈ names := by
  simp [isBound, under, name, and_or_left]

end Reference

/-- The names that some named queries define, in the form in which names are compared. -/
def boundNames (ctes : List Cte) : List String := ctes.map fun c => normalize c.name.text

mutual

/-- The references of an expression. -/
def Expr.references : Expr → List Reference
  | .star => []
  | .starOf _ => []
  | .value _ => []
  | .name _ => []
  | .operation _ operands => exprReferences operands
  | .call _ arguments => exprReferences arguments
  | .subquery query => query.references

/-- The references of some expressions. -/
def exprReferences : List Expr → List Reference
  | [] => []
  | e :: es => e.references ++ exprReferences es

/-- The references of rows of expressions. -/
def rowReferences : List (List Expr) → List Reference
  | [] => []
  | row :: rows => exprReferences row ++ rowReferences rows

/-- The references of a query. Its clause binds all of its names in the body and behind it. -/
def Query.references : Query → List Reference
  | .mk isRecursive ctes body tail =>
    cteReferences (if isRecursive then boundNames ctes else []) ctes
      ++ (body.references ++ exprReferences tail).map (.under (boundNames ctes))

/-- The references of a named query. -/
def Cte.references : Cte → List Reference
  | .mk _ query => query.references

/-- The references of some named queries, each of which binds its name in those behind it. -/
def cteReferences : List String → List Cte → List Reference
  | _, [] => []
  | before, c :: cs =>
    c.references.map (.under before) ++ cteReferences (normalize c.name.text :: before) cs

/-- The references of the body of a query. -/
def Body.references : Body → List Reference
  | .select items sources conditions =>
    exprReferences items ++ joinedReferences sources ++ exprReferences conditions
  | .nested query => query.references
  | .values rows => rowReferences rows
  | .table _ => []
  | .setOperation _ left right => left.references ++ right.references
  | .change statement => statement.references

/-- The references of a table with its joins. -/
def Joined.references : Joined → List Reference
  | .mk first joins => first.references ++ joinReferences joins

/-- The references of some tables with their joins. -/
def joinedReferences : List Joined → List Reference
  | [] => []
  | j :: js => j.references ++ joinedReferences js

/-- The references of a join. -/
def Join.references : Join → List Reference
  | .mk source condition => source.references ++ exprReferences condition

/-- The references of some joins. -/
def joinReferences : List Join → List Reference
  | [] => []
  | j :: js => j.references ++ joinReferences js

/-- The references of a source. -/
def Source.references : Source → List Reference
  | .table name arguments _ => ⟨name, []⟩ :: exprReferences arguments
  | .derived query _ => query.references
  | .expressions operands _ => exprReferences operands
  | .nested joined _ => joined.references
  | .rearranged source operands _ => source.references ++ exprReferences operands

/-- The references of the target of an insertion. -/
def Target.references : Target → List Reference
  | .table name => [⟨name, []⟩]
  | .function _ arguments => exprReferences arguments

/-- The references of copied rows. -/
def Copied.references : Copied → List Reference
  | .table _ => []
  | .query query => query.references

/-- The references of a statement, as far as it can be the body of a query. -/
def Statement.references : Statement → List Reference
  | .query query => query.references
  | .insert target none others => target.references ++ exprReferences others
  | .insert target (some query) others =>
    target.references ++ query.references ++ exprReferences others
  | .update tables others => joinedReferences tables ++ exprReferences others
  | .delete tables others => joinedReferences tables ++ exprReferences others
  | .merge target source others =>
    target.references ++ source.references ++ exprReferences others
  | .createTable name none => [⟨name, []⟩]
  | .createTable name (some query) => ⟨name, []⟩ :: query.references
  | .unload query _ => query.references
  | .copy copied _ _ => copied.references
  | .analyze table => [⟨table, []⟩]
  | .truncate tables => tables.map fun table => ⟨table, []⟩
  | .explain statement => statement.references
  | .other _ => []

end

/-! ### References and tables -/

/-- The tables that are referred to, without the names that are bound there. -/
def tablesOf (rs : List Reference) : List ObjectName := rs.map Reference.table

@[simp] theorem tablesOf_nil : tablesOf [] = [] := rfl

@[simp] theorem tablesOf_cons (r : Reference) (rs : List Reference) :
    tablesOf (r :: rs) = r.table :: tablesOf rs := rfl

@[simp] theorem tablesOf_append (rs ss : List Reference) :
    tablesOf (rs ++ ss) = tablesOf rs ++ tablesOf ss := List.map_append ..

@[simp] theorem tablesOf_under (names : List String) (rs : List Reference) :
    tablesOf (rs.map (.under names)) = tablesOf rs := by
  simp [tablesOf, Function.comp_def]

mutual

/-- The references of an expression are to the tables that it names. -/
theorem Expr.tables_references (e : Expr) : tablesOf e.references = e.relations := by
  cases e with
  | star => rfl
  | starOf _ => rfl
  | value _ => rfl
  | name _ => rfl
  | operation _ operands => exact tables_exprReferences operands
  | call _ arguments => exact tables_exprReferences arguments
  | subquery query => exact query.tables_references

theorem tables_exprReferences (es : List Expr) :
    tablesOf (exprReferences es) = exprRelations es := by
  cases es with
  | nil => rfl
  | cons e es =>
      simp [exprReferences, exprRelations, e.tables_references, tables_exprReferences es]

theorem tables_rowReferences (rows : List (List Expr)) :
    tablesOf (rowReferences rows) = rowRelations rows := by
  cases rows with
  | nil => rfl
  | cons row rows =>
      simp [rowReferences, rowRelations, tables_exprReferences row, tables_rowReferences rows]

/-- **The references of a query are to the tables that it names**, in the same order and as often.
-/
theorem Query.tables_references (query : Query) : tablesOf query.references = query.relations := by
  cases query with
  | mk isRecursive ctes body tail =>
      simp [Query.references, Query.relations, tables_cteReferences _ ctes,
        body.tables_references, tables_exprReferences tail]

theorem Cte.tables_references (c : Cte) : tablesOf c.references = c.relations := by
  cases c with
  | mk _ query => exact query.tables_references

theorem tables_cteReferences (before : List String) (ctes : List Cte) :
    tablesOf (cteReferences before ctes) = cteRelations ctes := by
  cases ctes with
  | nil => rfl
  | cons c cs =>
      simp [cteReferences, cteRelations, c.tables_references, tables_cteReferences _ cs]

theorem Body.tables_references (body : Body) : tablesOf body.references = body.relations := by
  cases body with
  | select items sources conditions =>
      simp [Body.references, Body.relations, tables_exprReferences items,
        tables_joinedReferences sources, tables_exprReferences conditions]
  | nested query => exact query.tables_references
  | values rows => exact tables_rowReferences rows
  | table _ => rfl
  | setOperation _ left right =>
      simp [Body.references, Body.relations, left.tables_references, right.tables_references]
  | change statement => exact statement.tables_references

theorem Joined.tables_references (joined : Joined) :
    tablesOf joined.references = joined.relations := by
  cases joined with
  | mk first joins =>
      simp [Joined.references, Joined.relations, first.tables_references,
        tables_joinReferences joins]

theorem tables_joinedReferences (js : List Joined) :
    tablesOf (joinedReferences js) = joinedRelations js := by
  cases js with
  | nil => rfl
  | cons j js =>
      simp [joinedReferences, joinedRelations, j.tables_references, tables_joinedReferences js]

theorem Join.tables_references (join : Join) : tablesOf join.references = join.relations := by
  cases join with
  | mk source condition =>
      simp [Join.references, Join.relations, source.tables_references,
        tables_exprReferences condition]

theorem tables_joinReferences (js : List Join) :
    tablesOf (joinReferences js) = joinRelations js := by
  cases js with
  | nil => rfl
  | cons j js =>
      simp [joinReferences, joinRelations, j.tables_references, tables_joinReferences js]

theorem Source.tables_references (source : Source) :
    tablesOf source.references = source.relations := by
  cases source with
  | table name arguments _ =>
      simp [Source.references, Source.relations, tables_exprReferences arguments]
  | derived query _ => exact query.tables_references
  | expressions operands _ => exact tables_exprReferences operands
  | nested joined _ => exact joined.tables_references
  | rearranged source operands _ =>
      simp [Source.references, Source.relations, source.tables_references,
        tables_exprReferences operands]

theorem Target.tables_references (target : Target) :
    tablesOf target.references = target.relations := by
  cases target with
  | table _ => rfl
  | function _ arguments => exact tables_exprReferences arguments

theorem Copied.tables_references (copied : Copied) :
    tablesOf copied.references = copied.relations := by
  cases copied with
  | table _ => rfl
  | query query => exact query.tables_references

/-- The references of a statement are to the tables that it names. -/
theorem Statement.tables_references (s : Statement) : tablesOf s.references = s.relations := by
  cases s with
  | query query => exact query.tables_references
  | insert target source others =>
      cases source with
      | none =>
          simp [Statement.references, Statement.relations, target.tables_references,
            tables_exprReferences others]
      | some query =>
          simp [Statement.references, Statement.relations, target.tables_references,
            query.tables_references, tables_exprReferences others]
  | update tables others =>
      simp [Statement.references, Statement.relations, tables_joinedReferences tables,
        tables_exprReferences others]
  | delete tables others =>
      simp [Statement.references, Statement.relations, tables_joinedReferences tables,
        tables_exprReferences others]
  | merge target source others =>
      simp [Statement.references, Statement.relations, target.tables_references,
        source.tables_references, tables_exprReferences others]
  | createTable name query =>
      cases query with
      | none => rfl
      | some query => simp [Statement.references, Statement.relations, query.tables_references]
  | unload query _ => exact query.tables_references
  | copy copied _ _ => exact copied.tables_references
  | analyze _ => rfl
  | truncate tables =>
      simp [Statement.references, Statement.relations, tablesOf, Function.comp_def]
  | explain statement => exact statement.tables_references
  | other _ => rfl

end

/-! ### What is read -/

/-- What the clause of a query makes of the references of its named queries: each of them is one of
a query of the clause, with the names before that query bound. By induction on the clause, whose
head joins the names before. -/
theorem mem_cteReferences {before : List String} {ctes : List Cte} {r : Reference} :
    r ∈ cteReferences before ctes ↔ ∃ earlier c later, ctes = earlier ++ c :: later
      ∧ ∃ r' ∈ c.references, r'.under ((boundNames earlier).reverse ++ before) = r := by
  induction ctes generalizing before with
  | nil => simp [cteReferences]
  | cons c cs ih =>
      simp only [cteReferences, List.mem_append, List.mem_map, ih]
      constructor
      · rintro (⟨r', member, rfl⟩ | ⟨earlier, c', later, rfl, r', member, rfl⟩)
        · exact ⟨[], c, cs, rfl, r', member, rfl⟩
        · exact ⟨c :: earlier, c', later, rfl, r', member, by simp [boundNames]⟩
      · rintro ⟨earlier, c', later, same, r', member, rfl⟩
        cases earlier with
        | nil =>
            obtain ⟨rfl, rfl⟩ := List.cons.inj same
            exact .inl ⟨r', member, rfl⟩
        | cons _ earlier =>
            obtain ⟨rfl, rfl⟩ := List.cons.inj same
            exact .inr ⟨earlier, c', later, rfl, r', member, by simp [boundNames]⟩

namespace Query

variable {query : Query} {name : String}

/-- The clause of the query is recursive. -/
def isRecursive : Query → Bool
  | mk isRecursive _ _ _ => isRecursive

/-- The references of the parts of a query, where only clauses inside these parts bind names. -/
def innerReferences : Query → List Reference
  | mk _ ctes body tail => ctes.flatMap Cte.references ++ (body.references ++ exprReferences tail)

/-- A query reads a table: it names the table where no clause binds the name. -/
def Reads (query : Query) (name : String) : Prop :=
  ∃ r ∈ query.references, r.isBound = false ∧ r.name = name

/-- A clause further inside than that of the query binds the name where it stands. -/
def BindsWithin (query : Query) (name : String) : Prop :=
  ∃ r ∈ query.innerReferences, r.isBound = true ∧ r.name = name

/-- A query in which no other clause than its own binds a name, and none of its own names is used
before it is defined or as one of several parts. -/
structure Plain (query : Query) : Prop where
  /-- No clause further inside binds a name where it stands. -/
  unbound : ∀ r ∈ query.innerReferences, r.isBound = false
  /-- The names of the clause are never used as names of several parts. -/
  single : ∀ r ∈ query.innerReferences, r.name ∈ query.cteNames → r.table.length = 1
  /-- A clause that is not recursive uses its names only behind their definitions. -/
  ordered : query.isRecursive = false → ∀ earlier c later, query.ctes = earlier ++ c :: later →
    ∀ r ∈ c.references, r.name ∈ query.cteNames → r.name ∈ boundNames earlier

/-- A reference of a query is one of a part of it, where more names of its clause may be bound. In
the query of a name these are at least the names before it, and else all of them. -/
theorem exists_innerReference {r : Reference} (member : r ∈ query.references) :
    ∃ r' ∈ query.innerReferences, ∃ names, r'.under names = r ∧ names ⊆ query.cteNames
      ∧ (query.cteNames ⊆ names ∨ query.isRecursive = false ∧ ∃ earlier c later,
          query.ctes = earlier ++ c :: later ∧ r' ∈ c.references ∧ boundNames earlier ⊆ names) := by
  obtain ⟨isRecursive, ctes, body, tail⟩ := query
  simp only [references, List.mem_append, List.mem_map, mem_cteReferences] at member
  rcases member with ⟨earlier, c, later, rfl, r', member, rfl⟩ | ⟨r', member, rfl⟩
  · refine ⟨r', ?_, _, rfl, ?_, ?_⟩
    · simp [innerReferences, member]
    · cases isRecursive <;> simp +contextual [cteNames, boundNames, Query.ctes, List.subset_def]
    · cases isRecursive with
      | true => exact .inl (by simp [cteNames, boundNames, Query.ctes])
      | false => exact .inr ⟨rfl, earlier, c, later, rfl, member, by simp⟩
  · exact ⟨r', by simp [innerReferences, member], _, rfl, List.Subset.refl _,
      .inl (List.Subset.refl _)⟩

/-- The references of the parts of a query are to the tables that it names. -/
theorem tables_innerReferences (query : Query) :
    tablesOf query.innerReferences = query.relations := by
  obtain ⟨isRecursive, ctes, body, tail⟩ := query
  have named : tablesOf (ctes.flatMap Cte.references) = cteRelations ctes := by
    induction ctes with
    | nil => rfl
    | cons c cs ih => simp [cteRelations, c.tables_references, ih]
  simp [innerReferences, relations, named, body.tables_references, tables_exprReferences tail]

/-- References to the tables that a query names have the names of its sources, except for those that
its clause defines. -/
theorem mem_sources_iff_of_tables {rs : List Reference} (same : tablesOf rs = query.relations) :
    name ∈ query.sources ↔ name ∉ query.cteNames ∧ ∃ r ∈ rs, r.name = name := by
  rw [mem_sources, ← same, and_comm]
  simp [tablesOf, Reference.name]

/-- **A source is a name that is read, or bound by a clause further inside**, and that the query's
own clause does not define. -/
theorem mem_sources_iff :
    name ∈ query.sources ↔
      name ∉ query.cteNames ∧ (query.Reads name ∨ query.BindsWithin name) := by
  constructor
  · intro source
    obtain ⟨free, r, member, rfl⟩ := (mem_sources_iff_of_tables query.tables_references).1 source
    refine ⟨free, ?_⟩
    cases bound : r.isBound with
    | false => exact .inl ⟨r, member, bound, rfl⟩
    | true =>
        obtain ⟨r', inner, names, rfl, own, -⟩ := exists_innerReference member
        rcases Reference.isBound_under.1 bound with bound | ⟨-, bound⟩
        · exact .inr ⟨r', inner, bound, rfl⟩
        · exact absurd (own bound) free
  · rintro ⟨free, ⟨r, member, -, rfl⟩ | ⟨r, member, -, rfl⟩⟩
    · exact (mem_sources_iff_of_tables query.tables_references).2 ⟨free, r, member, rfl⟩
    · exact (mem_sources_iff_of_tables query.tables_innerReferences).2 ⟨free, r, member, rfl⟩

/-- A plain query reads no table that has a name of its clause. -/
theorem Plain.not_mem_cteNames (plain : query.Plain) (reads : query.Reads name) :
    name ∉ query.cteNames := by
  obtain ⟨r, member, unbound, rfl⟩ := reads
  intro own
  obtain ⟨r', inner, names, rfl, -, visible⟩ := exists_innerReference member
  refine Bool.eq_false_iff.1 unbound (Reference.isBound_under.2 (.inr ?_))
  refine ⟨plain.single r' inner own, ?_⟩
  rcases visible with all | ⟨ordinary, earlier, c, later, clause, here, before⟩
  · exact all own
  · exact before (plain.ordered ordinary earlier c later clause r' here own)

/-- **The sources of a plain query are what it reads.** Those of any query are what it reads and
what clauses further inside bind, without the names that its own clause defines. -/
theorem mem_sources_iff_reads (query : Query) :
    (∀ name, name ∈ query.sources ↔
        name ∉ query.cteNames ∧ (query.Reads name ∨ query.BindsWithin name))
      ∧ (query.Plain → ∀ name, name ∈ query.sources ↔ query.Reads name) := by
  refine ⟨fun name => mem_sources_iff, fun plain name => ?_⟩
  rw [mem_sources_iff]
  constructor
  · rintro ⟨-, reads | ⟨r, member, bound, -⟩⟩
    · exact reads
    · exact absurd bound (Bool.eq_false_iff.1 (plain.unbound r member))
  · exact fun reads => ⟨plain.not_mem_cteNames reads, .inl reads⟩

/-- All rows of a table. -/
def rowsOf (table : String) : Query :=
  .ofBody (.select [.star] [.mk (.table [⟨table, none⟩] [] none) []] [])

/-- A query whose clause defines two names, the second one from the first. -/
theorem mem_sources_of_two_names :
    ∃ query : Query, query.Plain ∧ query.cteNames = ["t", "u"]
      ∧ (∀ name, name ∈ query.sources ↔ query.Reads name) ∧ query.Reads "a" := by
  let query : Query := .mk false [.mk ⟨"t", none⟩ (rowsOf "A"), .mk ⟨"u", none⟩ (rowsOf "t")]
    (rowsOf "u").body []
  have plain : query.Plain := by
    refine ⟨by decide +kernel, by decide +kernel, fun _ earlier c later same => ?_⟩
    obtain _ | ⟨_, _ | ⟨_, _⟩⟩ := earlier
    · obtain ⟨rfl, -⟩ := List.cons.inj same
      decide +kernel
    · obtain ⟨rfl, others⟩ := List.cons.inj same
      obtain ⟨rfl, -⟩ := List.cons.inj others
      decide +kernel
    · simp [query, Query.ctes] at same
  exact ⟨query, plain, by decide +kernel, (mem_sources_iff_reads query).2 plain,
    ⟨[⟨"A", none⟩], []⟩, by decide +kernel, by decide +kernel, by decide +kernel⟩

/-- **The sources of a query may be others than what it reads**: a name that a clause further inside
binds is a source, and nothing reads it. -/
theorem not_mem_sources_iff_reads :
    ¬ ∀ (query : Query) (name : String), name ∈ query.sources ↔ query.Reads name := by
  intro claim
  -- the query of a query that names the rows of a table
  let query : Query := .ofBody (.select [.star] [.mk (.derived (.mk false
    [.mk ⟨"t", none⟩ (rowsOf "a")] (rowsOf "t").body []) none) []] [])
  have source : "t" ∈ query.sources := by
    refine mem_sources.2 ⟨⟨[⟨"t", none⟩], ?_, ?_⟩, ?_⟩ <;> decide +kernel
  have unread : ¬ query.Reads "t" := by
    unfold Reads
    decide +kernel
  exact unread ((claim query "t").1 source)

end Query

end QueryFlow.Sql
