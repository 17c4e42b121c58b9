import QueryFlow.Sql.Grammar.DocumentTable
import QueryFlow.Sql.Grammar.Operator
import QueryFlow.Sql.Grammar.RowPattern

/-!
# Tables and joins

What rows are read from: tables by name, queries, functions and joined tables in brackets, and the
tables joined to them. What stands in brackets is first read as a query, and as joined tables if it
is none.

A table by its name may be a call of a function that makes a table, and then its arguments are kept.
Samples, versions and hints are read behind a table, some of them before its name and some behind
it, depending on the dialect. Turning rows into columns and back makes a source of a source, which
may go on several times.

In a dialect in which joins do not associate to the left, a source that others are joined to takes
its joins with it, as if it stood in brackets.
-/

namespace QueryFlow.Sql.Grammar

open Parse

variable (r : Rules)

/-! ### Rows of values -/

/-- A row of values. -/
def row (mayBeEmpty : Bool) : Parse (List Expr) := do
  let _ ← acceptWord "ROW"
  expect "("
  if ← both (return mayBeEmpty) (accept ")") then return []
  let es ← expressions r
  expect ")"
  return es

/-- Rows of values behind `VALUES`. -/
def rows (mayBeEmpty : Bool) : Parse Body := do return .values (← commas (row r mayBeEmpty))

/-! ### Phrases around a table -/

/-- A setting of a query: a name and its value. -/
def settingItem : Parse Expr := do
  let _ ← ident
  expect "="
  expression r

/-- The settings of a query, if there are any. -/
def settings : Parse (Option (List Expr)) :=
  given (both (has Dialect.hasColumnStore) (acceptWord "SETTINGS")) (commas (settingItem r))

/-- The arguments of a function that makes a table, behind the opening bracket. -/
def tableArguments : Parse (List Expr) := do
  if ← accept ")" then return []
  let rec go : Nat → Parse (List Expr)
    | 0 => return []
    | n + 1 => do
      match ← settings r with
      | some es => return es
      | none =>
        let e ← argument r
        if ← accept "," then return e :: (← go n) else return [e]
  let args ← go ((← get).length + 1)
  expect ")"
  return args

/-- The version of a table, if one is named. -/
def version : Parse (List Expr) := do
  if !(← has Dialect.hasTableVersions) then return []
  else if ← acceptWords ["FOR", "SYSTEM_TIME", "AS", "OF"] then single (expression r)
  else if ← atOneOf ["AT", "BEFORE"] then
    let function ← objectName
    single (call r function)
  else return []

/-- A number in brackets. -/
def seed : Parse Unit := bracketed numberValue

/-- A sample of a table, if one is taken. -/
def sample : Parse (List Expr) := do
  if (← acceptOneOf ["TABLESAMPLE", "SAMPLE"]).isNone then return []
  let _ ← acceptOneOf ["BERNOULLI", "ROW", "SYSTEM", "BLOCK"]
  let isBracketed ← accept "("
  let size ← if ← both (return isBracketed) (acceptWord "BUCKET") then do
      numberValue
      expectWords ["OUT", "OF"]
      numberValue
      behind r "ON"
    else do
      let es ← match ← attempt (expression r) with
        | some e => pure [e]
        | none =>
          match (← take).map Lexeme.token with
          | some (.word ..) => pure []
          | _ => refuseHere "Expecting number or byte length e.g. 100M"
      let _ ← acceptOneOf ["ROWS", "PERCENT"]
      pure es
  if isBracketed then expect ")"
  if (← acceptOneOf ["REPEATABLE", "SEED"]).isSome then seed
  let offset ← behind r "OFFSET"
  return size ++ offset

/-- A hint about the indexes of a table. -/
def indexHint : Parse (Option Unit) := do
  if (← acceptOneOf ["USE", "IGNORE", "FORCE"]).isNone then return none
  unless (← acceptOneOf ["INDEX", "KEY"]).isSome do expected "INDEX or KEY"
  if ← acceptWord "FOR" then
    unless ← acceptWord "JOIN" do
      unless ← acceptWords ["ORDER", "BY"] do expectWords ["GROUP", "BY"]
  expect "("
  let _ ← commasBefore ")" ident
  expect ")"
  return some ()

/-- A call of an aggregate with a name for its column. Behind it, `FOR` names no column. -/
def pivotedCall : Parse Expr := do
  let found ← take
  match found.map Lexeme.token with
  | some (.word text _ _) =>
    let e ← call r [⟨text, none⟩]
    let _ ← aliasOf fun w => both (return w != "FOR") (isColumnAlias w)
    return e
  | _ => expected "a function identifier"

/-- A turning of rows into columns behind `PIVOT`. -/
def pivot (before : Source) : Parse Source := do
  expect "("
  let calls ← commas (pivotedCall r)
  expectWord "FOR"
  let column := operandOf r .between
  let turned ← if ← atMark "(" then bracketed (commas column) else single column
  expectWord "IN"
  let values ← bracketed do
    if ← acceptWord "ANY" then listIf (acceptWords ["ORDER", "BY"]) (orderItems r)
    else if ← atQuery then return [.subquery (← r.query)]
    else
      commas do
        let e ← expression r
        let _ ← columnAlias
        return e
  let default ← listIf (acceptWords ["DEFAULT", "ON", "NULL"]) (bracketed (single (expression r)))
  expect ")"
  return .rearranged before (calls ++ turned ++ values ++ default) (← tableAlias r)

/-- A turning of columns into rows behind `UNPIVOT`. -/
def unpivot (before : Source) : Parse Source := do
  if (← acceptOneOf ["INCLUDE", "EXCLUDE"]).isSome then expectWord "NULLS"
  expect "("
  let e ← expression r
  expectWord "FOR"
  let _ ← ident
  expectWord "IN"
  let values ← bracketed <| commas do
    let v ← expression r
    let _ ← columnAlias
    return v
  expect ")"
  return .rearranged before (e :: values) (← tableAlias r)

/-- The rearrangements that follow a source. -/
def rearranged (before : Source) : Parse Source :=
  chain (fun s => do
    if ← acceptWord "PIVOT" then return some (← pivot r s)
    else if ← acceptWord "UNPIVOT" then return some (← unpivot r s)
    else return none) before

/-! ### Sources -/

/-- A query behind an opening bracket, up to the closing one, and its name. -/
def derived : Parse Source := do
  let q ← r.query
  expect ")"
  return .derived q (← tableAlias r)

/-- Joined tables. -/
def joinedTables : Parse Joined := do
  let first ← r.source
  return .mk first (← r.joins)

/-- What stands in brackets, behind the opening one. -/
def bracketedSource : Parse Source := do
  match ← attempt (derived r) with
  | some s => rearranged r s
  | none =>
    let .mk first joins ← joinedTables r
    if !joins.isEmpty || first.isNested then
      expect ")"
      return .nested (.mk first joins) (← tableAlias r)
    else if ← has Dialect.hasBracketedTables then
      expect ")"
      match ← tableAlias r with
      | none => return first
      | some outer =>
        match first.given with
        | some inner => refuse ("duplicate alias " ++ inner.shown)
        | none => return first.named (some outer)
    else expected "joined table"

/-- A table by its name. -/
def namedTable : Parse Source := do
  let d ← dialect
  let name ← objectName
  if d.hasValuePaths && (← atMark "[") then
    let _ ← many do
      if ← accept "." then
        let _ ← ident
        return some ()
      else if ← accept "[" then
        let _ ← expression r
        expect "]"
        return some ()
      else return none
  if ← both (return d.hasMySqlPhrases) (acceptWord "PARTITION") then
    let _ ← requiredColumns false
  let asOf ← version r
  let args ← listIf (accept "(") (tableArguments r)
  let _ ← acceptWords ["WITH", "ORDINALITY"]
  let early ← if d.samplesBeforeAlias then sample r else pure []
  let given ← tableAlias r
  if d.hasIndexHints then
    let _ ← attempt (many indexHint)
  let hints ← if (← atKeyword "WITH") && (← isMarkAt 1 "(") then do
      skip
      bracketed (expressions r)
    else pure []
  let late ← if d.samplesBeforeAlias then pure [] else sample r
  let table ← rearranged r (.table name (args ++ asOf ++ early ++ hints ++ late) given)
  if ← both (return d.hasRowPatterns) (acceptWord "MATCH_RECOGNIZE") then
    let matched ← recognized r
    return .rearranged table matched (← tableAlias r)
  else return table

/-- Something that rows are read from. -/
def sourceRule : Parse Source := do
  let d ← dialect
  if ← acceptWord "LATERAL" then
    if ← accept "(" then derived r
    else
      let function ← objectName
      expect "("
      let args ← if ← accept ")" then pure []
        else do
          let es ← commas (argument r)
          expect ")"
          pure es
      return .expressions [.call function args] (← tableAlias r)
  else if ← acceptWord "TABLE" then
    let e ← bracketed (expression r)
    return .expressions [e] (← tableAlias r)
  else if ← accept "(" then bracketedSource r
  else if d.hasBareValues && (← atKeyword "VALUES") && (← isMarkAt 1 "(") then
    skip
    let body ← rows r false
    return .derived (.ofBody body) (← tableAlias r)
  else if ← both (return d.hasUnnest) (acceptWord "UNNEST") then
    let es ← bracketed (expressions r)
    let _ ← acceptWords ["WITH", "ORDINALITY"]
    let given ← tableAlias r
    if ← acceptWords ["WITH", "OFFSET"] then
      let _ ← aliasOf fun w => return !Keyword.reservedForColumns.contains w
    return .expressions es given
  else
    match ← documentTable? r with
    | some s => return s
    | none => namedTable r

/-! ### Joins -/

/-- The condition of a join. -/
def joinCondition (isNatural : Bool) : Parse (List Expr) := do
  if isNatural then return []
  else if ← acceptWord "ON" then single (expression r)
  else if ← acceptWord "USING" then
    let _ ← requiredQualifiedColumns
    return []
  else return []

/-- The keywords of an ordinary join; `false` if there are none. -/
def joinWords (isNatural : Bool) : Parse Bool := do
  let word ← nextKeyword
  if word == "INNER" || word == "JOIN" then
    let _ ← acceptWord "INNER"
    expectWord "JOIN"
    return true
  else if word == "LEFT" || word == "RIGHT" then
    skip
    match ← acceptOneOf ["OUTER", "SEMI", "ANTI", "JOIN"] with
    | some "JOIN" => return true
    | some _ =>
      expectWord "JOIN"
      return true
    | none => refuse ("expected OUTER, SEMI, ANTI or JOIN after " ++ word)
  else if word == "ANTI" || word == "SEMI" then
    skip
    expectWord "JOIN"
    return true
  else if word == "FULL" then
    skip
    let _ ← acceptWord "OUTER"
    expectWord "JOIN"
    return true
  else if word == "OUTER" then expected "LEFT, RIGHT, or FULL"
  else if word == "STRAIGHT_JOIN" then
    skip
    return true
  else if isNatural then expected "a join type after NATURAL"
  else return false

/-- A source that joins bind to on its right. -/
def joinedSource : Parse Source := do
  let s ← r.source
  let bindsRight := !(← has Dialect.joinsLeft)
  if bindsRight && (← atOneOf ["JOIN", "INNER", "LEFT", "RIGHT", "FULL"]) then
    return .nested (.mk s (← r.joins)) none
  else return s

/-- A join, if one follows. -/
def join : Parse (Option Join) := do
  let _ ← acceptWord "GLOBAL"
  if ← acceptWord "CROSS" then
    unless (← acceptOneOf ["JOIN", "APPLY"]).isSome do expected "JOIN or APPLY after CROSS"
    return some (.mk (← r.source) [])
  else if ← acceptWord "OUTER" then
    expectWord "APPLY"
    return some (.mk (← r.source) [])
  else if ← acceptWord "ASOF" then
    expectWord "JOIN"
    let s ← r.source
    expectWord "MATCH_CONDITION"
    let e ← bracketed (expression r)
    return some (.mk s (e :: (← joinCondition r false)))
  else
    let isNatural ← acceptWord "NATURAL"
    if ← joinWords isNatural then
      let s ← joinedSource r
      return some (.mk s (← joinCondition r isNatural))
    else return none

/-- What is joined to a source. -/
def joinsRule : Parse (List Join) := many (join r)

/-- The tables of a query. -/
def sources : Parse (List Joined) := do
  let d ← dialect
  let ends (t : Token) : Parse Bool :=
    return ["WHERE", "GROUP", "HAVING", "ORDER", "LIMIT", "UNION", "ON", "SELECT"].any t.isKeyword
  items (anotherFollows (d.hasTrailingCommas || d.hasTrailingTableCommas) ends) (joinedTables r)

end QueryFlow.Sql.Grammar
