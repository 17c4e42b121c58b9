import QueryFlow.Text.Lowercase

/-!
# Statements

The syntax of statements, as far as it matters for what a statement reads and writes: queries with
their `WITH` clauses, the tables they name, and the expressions that may hold further queries. An
expression keeps its operands, so that every query inside it can be found; which operator joins them
is kept as a word only.

## What is kept

Clauses without a table or a query in them leave no trace. Those that have expressions hand them to
what they belong to: the conditions of a query are one list, whichever clause they come from, and so
are the other expressions of a statement that changes rows. Statements of which nothing is followed
are their first keyword. The types are mutually inductive, since expressions hold queries and
queries hold expressions and statements.

## Names

`Ident.shown` writes a part of a name as a statement would write it. In its quotes, a quote that is
neither doubled nor behind a backslash is written twice. Names are compared in another form, which
`Sql.Relations` gives.
-/

namespace QueryFlow.Sql

/-! ### Names -/

/-- A part of a name, and the quote it is written in. -/
structure Ident where
  /-- What stands between the quotes, or all of the part if it has none. -/
  text : String
  /-- The quote that opens the part, if one does. -/
  quote : Option Char
deriving DecidableEq, Repr

namespace Ident

/-- Writes a quoted body. `before` is the character that decides whether a quote is escaped: a
backslash before it escapes it, and so does a quote behind it. -/
def shownBody (quote before : Char) : List Char → List Char
  | [] => []
  | c :: rest =>
    if c == quote then
      if before == '\\' then c :: shownBody quote before rest
      else
        match rest with
        | d :: rest' =>
          if d == quote then c :: d :: shownBody quote c rest'
          else c :: c :: shownBody quote c (d :: rest')
        | [] => [c, c]
    else c :: shownBody quote c rest

/-- A part of a name as a statement writes it. -/
def shown (part : Ident) : String :=
  match part.quote with
  | none => part.text
  | some '[' => "[" ++ part.text ++ "]"
  | some quote =>
    quote.toString ++ String.ofList (shownBody quote '\x00' part.text.toList) ++ quote.toString

end Ident

/-- The name of an object, from its outermost part to its innermost. -/
abbrev ObjectName := List Ident

/-- The name of an object as a statement writes it. -/
def ObjectName.shown (name : ObjectName) : String :=
  String.intercalate "." (name.map Ident.shown)

/-- A type of values, as far as the grammar needs to tell types apart. -/
inductive DataType
  | builtIn (name : String)
  | interval
  | custom (name : ObjectName)
deriving DecidableEq, Repr

/-! ### Expressions, queries and statements -/

/-- Where copied rows come from or go to. -/
inductive Place
  | standard
  | program (command : String)
  | file (path : String)
deriving DecidableEq, Repr

mutual

/-- An expression, by what it is made of. -/
inductive Expr
  /-- All columns. -/
  | star
  /-- All columns of a table. -/
  | starOf (table : ObjectName)
  /-- A value, as it is written. -/
  | value (text : String)
  /-- The name of a column. -/
  | name (parts : ObjectName)
  /-- A phrase or an operator with its operands. -/
  | operation (word : String) (operands : List Expr)
  /-- A call of a function. -/
  | call (function : ObjectName) (arguments : List Expr)
  /-- A query inside the expression. -/
  | subquery (query : Query)

/-- A query: its `WITH` clause, its body, and the expressions behind the body. -/
inductive Query
  | mk (isRecursive : Bool) (ctes : List Cte) (body : Body) (tail : List Expr)

/-- A named query of a `WITH` clause. -/
inductive Cte
  | mk (name : Ident) (query : Query)

/-- The body of a query. -/
inductive Body
  /-- `SELECT`, with the tables it reads and all its expressions. -/
  | select (items : List Expr) (sources : List Joined) (conditions : List Expr)
  /-- A query in brackets. -/
  | nested (query : Query)
  /-- Rows of values. -/
  | values (rows : List (List Expr))
  /-- All rows of a table, as `TABLE` writes it. -/
  | table (name : String)
  /-- Two bodies joined by `UNION` or its like. -/
  | setOperation (operator : String) (left right : Body)
  /-- A statement that changes rows. -/
  | change (statement : Statement)

/-- A table with the tables joined to it. -/
inductive Joined
  | mk (first : Source) (joins : List Join)

/-- A table joined to those before it, and the expressions of its condition. -/
inductive Join
  | mk (source : Source) (condition : List Expr)

/-- Something that rows are read from. -/
inductive Source
  /-- A table by its name. A call of a function that makes a table has arguments. -/
  | table (name : ObjectName) (arguments : List Expr) (given : Option Ident)
  /-- The rows of a query. -/
  | derived (query : Query) (given : Option Ident)
  /-- The rows of expressions. -/
  | expressions (operands : List Expr) (given : Option Ident)
  /-- Joined tables in brackets. -/
  | nested (joined : Joined) (given : Option Ident)
  /-- A source whose rows are rearranged. -/
  | rearranged (source : Source) (operands : List Expr) (given : Option Ident)

/-- What rows are inserted into. -/
inductive Target
  | table (name : ObjectName)
  | function (name : ObjectName) (arguments : List Expr)

/-- What rows are copied. -/
inductive Copied
  | table (name : ObjectName)
  | query (query : Query)

/-- A statement. -/
inductive Statement
  | query (query : Query)
  | insert (target : Target) (source : Option Query) (others : List Expr)
  | update (tables : List Joined) (others : List Expr)
  | delete (tables : List Joined) (others : List Expr)
  | merge (target source : Source) (others : List Expr)
  | createTable (name : ObjectName) (query : Option Query)
  | unload (query : Query) (location : Ident)
  | copy (copied : Copied) (place : Place) (outward : Bool)
  | analyze (table : ObjectName)
  | truncate (tables : List ObjectName)
  | explain (statement : Statement)
  /-- Any other statement, by its first keyword. -/
  | other (keyword : String)

end

namespace Query

/-- The query of a body alone. -/
def ofBody (body : Body) : Query := .mk false [] body []

/-- The named queries of the `WITH` clause. -/
def ctes : Query → List Cte
  | mk _ ctes _ _ => ctes

/-- The body of a query. -/
def body : Query → Body
  | mk _ _ body _ => body

end Query

namespace Cte

/-- The name of a named query. -/
def name : Cte → Ident
  | mk name _ => name

end Cte

/-- The source is joined tables in brackets. -/
def Source.isNested : Source → Bool
  | .nested .. => true
  | _ => false

/-- The name that a source is given. -/
def Source.given : Source → Option Ident
  | .table _ _ a => a
  | .derived _ a => a
  | .expressions _ a => a
  | .nested _ a => a
  | .rearranged _ _ a => a

/-- Gives a source a name. -/
def Source.named (a : Option Ident) : Source → Source
  | .table n args _ => .table n args a
  | .derived q _ => .derived q a
  | .expressions es _ => .expressions es a
  | .nested j _ => .nested j a
  | .rearranged s es _ => .rearranged s es a

end QueryFlow.Sql
