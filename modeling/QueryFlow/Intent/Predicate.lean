import QueryFlow.Intent.Context
import QueryFlow.Sql.Relations

/-!
# Predicates on statements

A *predicate* looks at a statement on its own and gives the context that it finds, if it finds one.
Predicates do not know of each other: a statement may satisfy several, and none of them sees what
was found before it. A predicate is data, a name and a function, so a classifier can be given more
of them than the standard ones.

## The standard predicates

There are six, asked in the order of `Predicate.standard`: maintenance, lookup, insertion, creation,
unloading and copying. Each of them looks at one constructor of `Statement` only, so on a statement
that the grammar has read at most one of them finds something.

The sources of an insertion need a word. They are the tables of the query that the rows come from,
but rows given as values have none, and the body of the query decides that: a value that is itself a
query does not make a values list read its tables. Everywhere else the sources are those of the
whole query, with the names of its own common table expressions left out.
-/

namespace QueryFlow.Intent

open QueryFlow.Sql

/-- A named question about a statement. -/
structure Predicate where
  name : String
  /-- The context that the predicate finds in a statement. -/
  find? : Statement → Option Context

/-- The statement keeps the statistics of a table up to date. The other ways of keeping the store in
order are recognised by their text, before the grammar is asked. -/
def maintenance? : Statement → Option Context
  | .analyze _ => some .maintenance
  | _ => none

/-- The statement is a query on its own, which reads and writes nothing. -/
def lookup? : Statement → Option Context
  | .query query => some (.lookup query.sources)
  | _ => none

/-- The tables that inserted rows are taken from. Rows given as values are taken from none, even if
a value is a query. -/
def insertedSources : Option Query → NameSet
  | none => .empty
  | some query =>
    match query.body with
    | .values _ => .empty
    | _ => query.sources

/-- The statement inserts rows into a table. Rows inserted into anything but a named table are not
followed. -/
def insertion? : Statement → Option Context
  | .insert (.table name) source _ => some (.insert ⟨name.normalized, insertedSources source⟩)
  | _ => none

/-- The statement creates a table from a query. A table that is created from its columns is not
filled. -/
def creation? : Statement → Option Context
  | .createTable name (some query) => some (.create ⟨name.normalized, query.sources⟩)
  | _ => none

/-- The statement takes the rows of a query to a place outside. -/
def unloading? : Statement → Option Context
  | .unload query location => some (.unload ⟨location.text, query.sources⟩)
  | _ => none

/-- The place of a copy, as a text. The standard stream has the name of the end that is copied to or
from. -/
def placeText (outward : Bool) : Place → String
  | .file path => path
  | .program command => command
  | .standard => if outward then "stdout" else "stdin"

/-- The tables of a copy. -/
def copiedTables : Copied → NameSet
  | .table name => .singleton name.normalized
  | .query query => query.sources

/-- The statement copies rows from or to a place outside, in either direction. -/
def copying? : Statement → Option Context
  | .copy copied place outward =>
    some (.copy
      { direction := if outward then .outward else .inward
        tables := copiedTables copied
        location := placeText outward place })
  | _ => none

/-- The predicates that every classification asks, in this order. -/
def Predicate.standard : List Predicate :=
  [⟨"maintenance", maintenance?⟩, ⟨"lookup", lookup?⟩, ⟨"insert", insertion?⟩,
    ⟨"ctas", creation?⟩, ⟨"unload", unloading?⟩, ⟨"copy", copying?⟩]

end QueryFlow.Intent
