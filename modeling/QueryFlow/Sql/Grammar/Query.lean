import QueryFlow.Sql.Grammar.Source

/-!
# Queries

A query has an optional `WITH` clause, a body, and clauses that order and limit its rows. A body is
a `SELECT`, rows of values, a query in brackets, or two bodies joined by `UNION` or its like, where
`INTERSECT` binds more strongly.

The clauses of a `SELECT` come in a fixed order, and each of them is a step that gives its
expressions or nothing. They are put together as the conditions of the body, with the selected
expressions and the tables apart. A table that the rows go into is read and left out.

A query counts as one more nested phrase.
-/

namespace QueryFlow.Sql.Grammar

open Parse

variable (r : Rules)

/-! ### Selected expressions -/

/-- Names in brackets, or a single name. -/
def nameOrNames : Parse Unit := do
  if ← accept "(" then
    let _ ← commas ident
    expect ")"
  else
    let _ ← ident

/-- Columns that a star leaves out. -/
def excludedColumns : Parse Unit := do
  if ← acceptWord "EXCLUDE" then nameOrNames

/-- A replaced column of a star. -/
def replacement : Parse Expr := do
  let e ← expression r
  let _ ← acceptWord "AS"
  let _ ← ident
  return e

/-- A renamed column of a star. -/
def renamedColumn : Parse Unit := do
  let _ ← ident
  expectWord "AS"
  let _ ← ident

/-- What may stand behind a star. -/
def starOptions : Parse (List Expr) := do
  let d ← dialect
  let isPattern ← both (return d.hasStarRename) (acceptWord "ILIKE")
  if isPattern then
    let found ← take
    match found.map Lexeme.token with
    | some (.text .single _) => pure ()
    | _ => unexpected "ilike pattern" found
  if !isPattern && d.hasStarExclude then excludedColumns
  if ← both (return d.hasStarExcept) (acceptWord "EXCEPT") then
    if ← atMark "(" then
      let _ ← requiredColumns false
    else
      let _ ← ident
  let replaced ← listIf (both (return d.hasStarReplace) (acceptWord "REPLACE")) do
    if ← accept "(" then
      let es ← commas (replacement r)
      expect ")"
      return es
    else
      let found ← take
      unexpected "( after REPLACE but" found
  if ← both (return d.hasStarRename) (acceptWord "RENAME") then
    if ← accept "(" then
      let _ ← commas renamedColumn
      expect ")"
    else renamedColumn
  return replaced

/-- A selected expression. -/
def selectItem : Parse (List Expr) := do
  let d ← dialect
  if d == .snowflake then
    let _ ← acceptWord "CONNECT_BY_ROOT"
  let e ← starOrExpression r
  match e with
  | .star => return e :: (← starOptions r)
  | .starOf _ => return e :: (← starOptions r)
  | .name [⟨text, none⟩] =>
    if Text.lowercase text == "from" then
      refuseHere ("Expected an expression, found: " ++ text)
    else named d e
  | _ => named d e
where
  /-- The expression with the name that it is given. -/
  named (d : Dialect) (e : Expr) : Parse (List Expr) := do
    if ← both (return d.hasExpressionStars) (acceptMarks [".", "*"]) then return e :: (← starOptions r)
    let _ ← columnAlias
    return [e]

/-- The selected expressions. -/
def selectItems : Parse (List Expr) := do
  let d ← dialect
  let trailing := d.hasTrailingCommas || d.hasTrailingSelectionCommas
  let ends (t : Token) : Parse Bool := do
    match t with
    | .word _ none spelling => return Keyword.reservedForColumns.contains spelling
    | _ => return false
  return (← items (anotherFollows trailing ends) (selectItem r)).flatten

/-- How many rows are taken at the top. -/
def top : Parse (List Expr) := do
  let quantity ← if ← accept "(" then do
      let e ← expression r
      expect ")"
      pure [e]
    else do
      let found ← take
      match found.map Lexeme.token with
      | some (.number digits _) => pure [.value digits]
      | _ => unexpected "literal int" found
  let _ ← acceptWord "PERCENT"
  let _ ← acceptWords ["WITH", "TIES"]
  return quantity

/-- Whether equal rows are taken once. -/
def distinction : Parse (List Expr) := do
  let place := (← get).head?.map Lexeme.place
  let isAll ← acceptWord "ALL"
  let isDistinct ← acceptWord "DISTINCT"
  if !isDistinct then return []
  if isAll then throw (.refused "Cannot specify both ALL and DISTINCT" place)
  if ← acceptWord "ON" then
    expect "("
    if ← accept ")" then return []
    let es ← expressions r
    expect ")"
    return es
  else return []

/-! ### Clauses -/

/-- The table that the rows go into. -/
def into : Parse Unit := do
  if ← acceptWord "INTO" then
    let _ ← acceptOneOf ["TEMP", "TEMPORARY"]
    let _ ← acceptWord "UNLOGGED"
    let _ ← acceptWord "TABLE"
    let _ ← objectName

/-- A view that is joined to each row. -/
def lateralView : Parse (Option Expr) := do
  if ← acceptWords ["LATERAL", "VIEW"] then
    let _ ← acceptWord "OUTER"
    let e ← expression r
    let _ ← objectName
    let _ ← commas <| aliasOf fun w =>
      return !(["WHERE", "GROUP", "CLUSTER", "HAVING", "LATERAL"].contains w)
    return some e
  else return none

/-- Expressions in brackets, or a single one. -/
def tuple (mayBeSingle : Bool) : Parse (List Expr) := do
  if mayBeSingle && !(← atMark "(") then single (expression r)
  else
    expect "("
    if ← accept ")" then return []
    let es ← expressions r
    expect ")"
    return es

/-- An expression to group by. -/
def groupItem : Parse (List Expr) := do
  if !(← has Dialect.hasGroupingSets) then single (expression r)
  else if ← acceptWords ["GROUPING", "SETS"] then
    return (← bracketed (commas (tuple r false))).flatten
  else if ← acceptWord "CUBE" then return (← bracketed (commas (tuple r true))).flatten
  else if ← acceptWord "ROLLUP" then return (← bracketed (commas (tuple r true))).flatten
  else if ← acceptMarks ["(", ")"] then return []
  else single (expression r)

/-- What the rows are grouped by. -/
def grouping : Parse (List Expr) := do
  if ← acceptWords ["GROUP", "BY"] then
    let es ← if ← acceptWord "ALL" then pure [] else pure (← commas (groupItem r)).flatten
    if ← has Dialect.hasGroupModifiers then
      let _ ← many <| given (acceptWord "WITH") (expectOneOf ["ROLLUP", "CUBE", "TOTALS"])
    let sets ← listIf (acceptWords ["GROUPING", "SETS"]) do
      return (← bracketed (commas (tuple r true))).flatten
    return es ++ sets
  else return []

/-- Windows with names, and a condition on what they compute, in either order. -/
def windows : Parse (List Expr) := do
  let named : Parse (List Expr) := do return (← commas (namedWindow r)).flatten
  if ← acceptWord "WINDOW" then
    let es ← named
    return es ++ (← behind r "QUALIFY")
  else if ← acceptWord "QUALIFY" then
    let e ← expression r
    return e :: (← listIf (acceptWord "WINDOW") named)
  else return []

/-- A hierarchy along which rows are read. -/
def hierarchy : Parse (List Expr) := do
  if !(← has Dialect.hasConnectBy) || !(← atOneOf ["START", "CONNECT"]) then return []
  let links : Parse (List Expr) := withReader (fun s => { s with inHierarchy := true })
    (expressions r)
  if ← acceptWords ["CONNECT", "BY"] then
    let es ← links
    expectWords ["START", "WITH"]
    return es ++ [← expression r]
  else
    expectWords ["START", "WITH"]
    let e ← expression r
    expectWords ["CONNECT", "BY"]
    return e :: (← links)

/-- A `SELECT`. -/
def select : Parse Body := do
  let d ← dialect
  let first ← if ← both (return d.hasTablesFirst) (acceptWord "FROM") then
      pure (some (← sources r))
    else pure none
  if first.isSome && !(← atKeyword "SELECT") then return .select [] (first.getD []) []
  expectWord "SELECT"
  let early ← listIf (both (return d.hasTopFirst) (acceptWord "TOP")) (top r)
  let distinct ← distinction r
  let late ← listIf (both (return !d.hasTopFirst) (acceptWord "TOP")) (top r)
  let es ← if d.hasEmptySelection && (← atKeyword "FROM") then pure [] else selectItems r
  if d.hasSelectExclude then excludedColumns
  into
  let tables ← match first with
    | some tables => pure tables
    | none => if ← acceptWord "FROM" then sources r else pure []
  let views ← many (lateralView r)
  let before ← if d.hasColumnStore then behind r "PREWHERE" else pure []
  let condition ← behind r "WHERE"
  let group ← grouping r
  let clustered ← listIf (acceptWords ["CLUSTER", "BY"]) (expressions r)
  let distributed ← listIf (acceptWords ["DISTRIBUTE", "BY"]) (expressions r)
  let sorted ← listIf (acceptWords ["SORT", "BY"]) (orderItems r)
  let having ← behind r "HAVING"
  let windowed ← windows r
  let along ← hierarchy r
  return .select es tables (early ++ distinct ++ late ++ views ++ before ++ condition ++ group
    ++ clustered ++ distributed ++ sorted ++ having ++ windowed ++ along)

/-! ### Bodies -/

/-- The table behind `TABLE`. Two more lexemes belong to the phrase: a point and a name, or whatever
stands there. -/
def wholeTable : Parse Body := do
  let first ← take
  let second ← take
  let third ← take
  let nameOf (what : String) (found : Option Lexeme) : Parse String := do
    match found.map Lexeme.token with
    | some (.word text _ _) => return text
    | _ => unexpected what found
  if second.any fun l => l.token.isMark "." then
    let schema ← nameOf "Schema name" first
    let table ← nameOf "Table name" third
    return .table (schema ++ "." ++ table)
  else return .table (← nameOf "Table name" first)

/-- How strongly an operator binds that joins two bodies. -/
def setStrength : String → Nat
  | "UNION" | "EXCEPT" | "MINUS" => 10
  | "INTERSECT" => 20
  | _ => 0

/-- Whether equal rows are kept, and how columns are matched. -/
def setQuantifier : Parse Unit := do
  if ← acceptWords ["DISTINCT", "BY", "NAME"] then return
  if ← acceptWords ["BY", "NAME"] then return
  if ← acceptWord "ALL" then
    let _ ← acceptWords ["BY", "NAME"]
  else
    let _ ← acceptWord "DISTINCT"

/-- A body, extended by operators that bind more strongly than `strength`. -/
def bodyRule (strength : Nat) : Parse Body := do
  let d ← dialect
  let first ← if (← atKeyword "SELECT") || (d.hasTablesFirst && (← atKeyword "FROM")) then
      select r
    else if ← accept "(" then do
      let q ← r.query
      expect ")"
      pure (.nested q)
    else if ← acceptWord "VALUES" then rows r d.hasEmptyRows
    else if ← acceptWord "TABLE" then wholeTable
    else expected "SELECT, VALUES, or a subquery in the query body"
  chain (fun left => do
    let word ← nextKeyword
    let next := setStrength word
    if next ≤ strength then return none
    else
      skip
      setQuantifier
      return some (.setOperation word left (← r.body next))) first

/-! ### Queries -/

/-- A named query of a `WITH` clause. -/
def cte : Parse Cte := do
  let name ← ident
  let direct ← acceptWord "AS"
  unless direct do
    aliasColumns r
    expectWord "AS"
  if ← isIn [.postgres] then
    unless ← acceptWord "MATERIALIZED" do
      let _ ← acceptWords ["NOT", "MATERIALIZED"]
  let q ← bracketed r.query
  if ← acceptWord "FROM" then
    let _ ← ident
  return .mk name q

/-- The order of the rows. -/
def ordering : Parse (List Expr) := do
  if ← acceptWords ["ORDER", "BY"] then
    if ← both (has Dialect.hasOrderByAll) (acceptWord "ALL") then
      direction
      return []
    let es ← orderItems r
    if ← both (has Dialect.hasColumnStore) (acceptWord "INTERPOLATE") then
      let filled ← listIf (accept "(") do
        let filled ← commasBefore ")" do
          let _ ← ident
          behind r "AS"
        expect ")"
        return filled.flatten
      return es ++ filled
    return es
  else return []

/-- The number of rows that are left out. -/
def offset : Parse (List Expr) := do
  let e ← expression r
  let _ ← acceptOneOf ["ROW", "ROWS"]
  return [e]

/-- How many rows are taken, and from where on. -/
def limits : Parse (List Expr) := do
  let d ← dialect
  let skipped ← given (acceptWord "OFFSET") (offset r)
  if ← acceptWord "LIMIT" then
    let count ← if ← acceptWord "ALL" then pure [] else single (expression r)
    if ← both (return d.hasLimitComma && skipped.isNone && !count.isEmpty) (accept ",") then
      return count ++ [← expression r]
    let groups ← listIf (both (return d.hasColumnStore) (acceptWord "BY")) (expressions r)
    let later ← if skipped.isNone then listIf (acceptWord "OFFSET") (offset r) else pure []
    return skipped.getD [] ++ count ++ groups ++ later
  else return skipped.getD []

/-- How many rows are fetched. -/
def fetching : Parse Unit := do
  if ← acceptWord "FETCH" then
    let _ ← acceptOneOf ["FIRST", "NEXT"]
    if (← acceptOneOf ["ROW", "ROWS"]).isNone then
      let _ ← value
      let _ ← acceptWord "PERCENT"
      let _ ← acceptOneOf ["ROW", "ROWS"]
    unless ← acceptWord "ONLY" do
      let _ ← acceptWords ["WITH", "TIES"]

/-- A lock on the rows, or the form in which they are given. -/
def locking : Parse (Option Unit) := do
  if ← acceptWord "FOR" then
    if ← acceptWord "BROWSE" then return some ()
    if (← acceptOneOf ["XML", "JSON"]).isSome then
      let _ ← expectOneOf ["AUTO", "PATH", "RAW", "EXPLICIT"]
      return some ()
    let _ ← expectOneOf ["UPDATE", "SHARE"]
    if ← acceptWord "OF" then
      let _ ← objectName
    unless ← acceptWord "NOWAIT" do
      let _ ← acceptWords ["SKIP", "LOCKED"]
    return some ()
  else return none

/-- The named queries of a `WITH` clause, and whether they may name themselves. -/
def withClause : Parse (Bool × List Cte) := do
  if ← acceptWord "WITH" then
    let isRecursive ← acceptWord "RECURSIVE"
    return (isRecursive, ← commas (cte r))
  else return (false, [])

/-- A query. -/
def queryRule : Parse Query := deeper do
  let (isRecursive, ctes) ← withClause r
  match ← acceptOneOf ["INSERT", "UPDATE", "DELETE", "MERGE"] with
  | some word => return .mk isRecursive ctes (.change (← r.change word)) []
  | none =>
    let body ← r.body 0
    let order ← ordering r
    let count ← limits r
    let given ← settings r
    fetching
    let _ ← many locking
    if ← both (has Dialect.hasColumnStore) (acceptWord "FORMAT") then
      unless ← acceptWord "NULL" do
        let _ ← ident
    return .mk isRecursive ctes body (order ++ count ++ given.getD [])

end QueryFlow.Sql.Grammar
