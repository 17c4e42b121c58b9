import QueryFlow.NameSet
import QueryFlow.Sql.Syntax

/-!
# Tables that a query names

`Query.relations` lists every table that a query names, wherever it stands: in its own tables, in
queries inside expressions, in the queries of its `WITH` clause, and in a statement that is its
body. Functions that make tables count as tables; so do names that a `WITH` clause defines.

`Query.sources` are the tables that a query takes its rows from: those that it names, less the names
of its own `WITH` clause. No scopes are followed, so a clause further inside takes nothing away;
what that means for nested clauses is worked out in `Proofs.Sql.Scope`.

Names are compared without quotes and in lower case. `normalize` leaves quotes and brackets out
wherever they stand in the name, which also joins names that differ in nothing else.

## Main statement

* `mem_sources`: the sources of a query are the tables that it names and that its own clause does
  not define.
-/

namespace QueryFlow.Sql

open QueryFlow.Text

/-! ### Names -/

/-- A quote or a bracket that may surround a name. -/
def isNameQuote (c : Char) : Bool := c == '"' || c == '\x60' || c == '[' || c == ']'

/-- The form in which names of tables are compared: without quotes and in lower case. -/
def normalize (name : String) : String :=
  lowercase (String.ofList (name.toList.filter fun c => !isNameQuote c))

/-- The form in which the name of an object is compared. -/
def ObjectName.normalized (name : ObjectName) : String := normalize name.shown

/-! ### Relations -/

mutual

/-- The tables that an expression names. -/
def Expr.relations : Expr → List ObjectName
  | .star => []
  | .starOf _ => []
  | .value _ => []
  | .name _ => []
  | .operation _ operands => exprRelations operands
  | .call _ arguments => exprRelations arguments
  | .subquery query => query.relations

/-- The tables that some expressions name. -/
def exprRelations : List Expr → List ObjectName
  | [] => []
  | e :: es => e.relations ++ exprRelations es

/-- The tables that rows of expressions name. -/
def rowRelations : List (List Expr) → List ObjectName
  | [] => []
  | row :: rows => exprRelations row ++ rowRelations rows

/-- The tables that a query names. -/
def Query.relations : Query → List ObjectName
  | .mk _ ctes body tail => cteRelations ctes ++ body.relations ++ exprRelations tail

/-- The tables that a named query names. -/
def Cte.relations : Cte → List ObjectName
  | .mk _ query => query.relations

/-- The tables that some named queries name. -/
def cteRelations : List Cte → List ObjectName
  | [] => []
  | c :: cs => c.relations ++ cteRelations cs

/-- The tables that the body of a query names. -/
def Body.relations : Body → List ObjectName
  | .select items sources conditions =>
    exprRelations items ++ joinedRelations sources ++ exprRelations conditions
  | .nested query => query.relations
  | .values rows => rowRelations rows
  | .table _ => []
  | .setOperation _ left right => left.relations ++ right.relations
  | .change statement => statement.relations

/-- The tables that a table with its joins names. -/
def Joined.relations : Joined → List ObjectName
  | .mk first joins => first.relations ++ joinRelations joins

/-- The tables that some tables with their joins name. -/
def joinedRelations : List Joined → List ObjectName
  | [] => []
  | j :: js => j.relations ++ joinedRelations js

/-- The tables that a join names. -/
def Join.relations : Join → List ObjectName
  | .mk source condition => source.relations ++ exprRelations condition

/-- The tables that some joins name. -/
def joinRelations : List Join → List ObjectName
  | [] => []
  | j :: js => j.relations ++ joinRelations js

/-- The tables that a source names. -/
def Source.relations : Source → List ObjectName
  | .table name arguments _ => name :: exprRelations arguments
  | .derived query _ => query.relations
  | .expressions operands _ => exprRelations operands
  | .nested joined _ => joined.relations
  | .rearranged source operands _ => source.relations ++ exprRelations operands

/-- The tables that the target of an insertion names. -/
def Target.relations : Target → List ObjectName
  | .table name => [name]
  | .function _ arguments => exprRelations arguments

/-- The tables that copied rows name. -/
def Copied.relations : Copied → List ObjectName
  | .table _ => []
  | .query query => query.relations

/-- The tables that a statement names, as far as it can be the body of a query. -/
def Statement.relations : Statement → List ObjectName
  | .query query => query.relations
  | .insert target none others => target.relations ++ exprRelations others
  | .insert target (some query) others =>
    target.relations ++ query.relations ++ exprRelations others
  | .update tables others => joinedRelations tables ++ exprRelations others
  | .delete tables others => joinedRelations tables ++ exprRelations others
  | .merge target source others => target.relations ++ source.relations ++ exprRelations others
  | .createTable name none => [name]
  | .createTable name (some query) => name :: query.relations
  | .unload query _ => query.relations
  | .copy copied _ _ => copied.relations
  | .analyze table => [table]
  | .truncate tables => tables
  | .explain statement => statement.relations
  | .other _ => []

end

/-! ### Sources -/

/-- The names that the `WITH` clause of a query defines. -/
def Query.cteNames (query : Query) : List String :=
  query.ctes.map fun c => normalize c.name.text

/-- The tables that a query takes its rows from. -/
def Query.sources (query : Query) : NameSet :=
  (NameSet.ofList (query.relations.map ObjectName.normalized)).filter
    fun name => !query.cteNames.contains name

/-- **The sources of a query are the tables that it names and that its `WITH` clause does not
define.** -/
theorem mem_sources {query : Query} {name : String} :
    name ∈ query.sources ↔
      (∃ table ∈ query.relations, table.normalized = name) ∧ name ∉ query.cteNames := by
  simp [Query.sources]

end QueryFlow.Sql
