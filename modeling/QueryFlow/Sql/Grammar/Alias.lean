import QueryFlow.Sql.Grammar.Rules

/-!
# Names given to what stands before them

A table or a selected expression may be given a name, with or without `AS`. Without it, a word is a
name only if the dialect does not reserve it for what may follow. A text in quotes is always a name.

Some words are reserved only where something certain follows them, as `LIMIT` does before a number
of rows. The step that decides is asked after the word has been taken, so it looks at what follows
the word; if the word is no name it is put back with the rest.
-/

namespace QueryFlow.Sql.Grammar

open Parse

/-- The name behind `AS`, or one without it that `isFree` accepts. `isFree` is asked for the keyword
after the word has been taken. -/
def aliasOf (isFree : String → Parse Bool) : Parse (Option Ident) := do
  let isExplicit ← acceptWord "AS"
  let start ← get
  let found ← take
  match found.map Lexeme.token with
  | some (.word text quote spelling) =>
    if isExplicit || (← isFree (if quote.isNone then spelling else "")) then
      return some ⟨text, quote⟩
    else
      set start
      return none
  | some (.text .single body) => return some ⟨body, some '\''⟩
  | some (.text .double body) => return some ⟨body, some '"'⟩
  | _ =>
    if isExplicit then unexpected "an identifier after AS" found
    else
      set start
      return none

/-- One of the marks is next, or nothing is. -/
def atEndOr (signs : List String) : Parse Bool := do
  match ← peek with
  | none => return true
  | some t => return signs.any t.isMark

/-- A number of rows follows `LIMIT`. -/
def atLimit : Parse Bool := do
  match ← peek with
  | some (.number ..) => return true
  | some (.placeholder _) => return true
  | some (.text .single body) => return body.isEmpty
  | some (.text (.dollar _) body) => return body.isEmpty
  | some t => return t.isKeyword "NULL"
  | none => return false

/-- The keyword may name a column. -/
def isColumnAlias (keyword : String) : Parse Bool := do
  match ← dialect with
  | .snowflake =>
    if ["EXCEPT", "LIMIT", "OFFSET", "RETURNING"].contains keyword then atEndOr [",", ";"]
    else if keyword == "FETCH" then return !(← atOneOf ["FIRST", "NEXT"])
    else
      return !(["FROM", "GROUP", "HAVING", "INTERSECT", "INTO", "MINUS", "ORDER", "SELECT", "UNION",
        "WHERE", "WITH"].contains keyword)
  | .mssql => return !(("IF" :: "ELSE" :: Keyword.reservedForColumns).contains keyword)
  | _ => return !Keyword.reservedForColumns.contains keyword

/-- The keyword may name a table. -/
def isTableAlias (keyword : String) : Parse Bool := do
  match ← dialect with
  | .snowflake =>
    if ["RETURNING", "INNER", "USING", "PIVOT", "UNPIVOT", "EXCEPT", "MATCH_RECOGNIZE"].contains
        keyword then atEndOr [";"]
    else if keyword == "LIMIT" then return !(← atLimit)
    else if keyword == "FETCH" then return !((← atOneOf ["FIRST", "NEXT"]) || (← atLimit))
    else if ["RIGHT", "LEFT", "SEMI", "ANTI"].contains keyword then
      return !(← atOneOf ["JOIN", "OUTER"])
    else if keyword == "GLOBAL" then return !(← atKeyword "FULL")
    else
      return !(["WITH", "ORDER", "SELECT", "WHERE", "GROUP", "HAVING", "LATERAL", "UNION",
        "INTERSECT", "MINUS", "ON", "JOIN", "OUTER", "CROSS", "FULL", "NATURAL", "ASOF", "START",
        "CONNECT", "QUALIFY", "FROM", "SET", "WINDOW", "SAMPLE", "TABLESAMPLE",
        "MATCH_CONDITION"].contains keyword)
  | .mysql =>
    return !(["USE", "IGNORE", "FORCE", "STRAIGHT_JOIN"].contains keyword
      || Keyword.reservedForTables.contains keyword)
  | _ => return !Keyword.reservedForTables.contains keyword

/-- The name of a selected expression. -/
def columnAlias : Parse (Option Ident) := aliasOf isColumnAlias

variable (r : Rules)

/-- Columns with their types in brackets, if brackets are next. -/
def aliasColumns : Parse Unit := do
  if ← accept "(" then
    let _ ← commas do
      let _ ← ident
      attempt r.dataType
    expect ")"

/-- The name of a table, and the names of its columns. -/
def tableAlias : Parse (Option Ident) := do
  let name ← aliasOf isTableAlias
  if name.isSome then aliasColumns r
  return name

end QueryFlow.Sql.Grammar
