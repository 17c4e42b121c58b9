import QueryFlow.Sql.Grammar.Call
import QueryFlow.Sql.Grammar.DataType
import QueryFlow.Sql.Grammar.Operator

/-!
# Phrases

Operands that start with a keyword of their own, such as `CASE`, `CAST` or `EXTRACT`. `phrase?`
reads the phrase that a keyword starts; a word that starts no phrase is left to be read as a name.

What a phrase is made of becomes the operands of one operation, named by the keyword. Words between
the operands, parts of a time and types are read and left out.
-/

namespace QueryFlow.Sql.Grammar

open Parse

variable (r : Rules)

/-- A query in brackets. -/
def queryInBrackets : Parse Expr := do return .subquery (← bracketed r.query)

/-- One branch of a distinction of cases. -/
def caseBranch : Parse (List Expr) := do
  let condition ← expression r
  expectWord "THEN"
  let result ← expression r
  return [condition, result]

/-- A distinction of cases behind `CASE`. -/
def caseOf : Parse Expr := do
  let operand ← if ← acceptWord "WHEN" then pure []
    else
      let e ← expression r
      expectWord "WHEN"
      pure [e]
  let branches ← items (acceptWord "WHEN") (caseBranch r)
  let otherwise ← behind r "ELSE"
  expectWord "END"
  return .operation "CASE" (operand ++ branches.flatten ++ otherwise)

/-- A cast behind its keyword. -/
def cast : Parse Expr := do
  expect "("
  let e ← expression r
  expectWord "AS"
  let _ ← r.dataType
  if ← acceptWord "FORMAT" then
    let _ ← value
    if ← acceptWords ["AT", "TIME", "ZONE"] then
      let _ ← value
  expect ")"
  return .operation "CAST" [e]

/-- A conversion behind its keyword. -/
def conversion : Parse Expr := do
  expect "("
  if ← has Dialect.convertsTypeFirst then
    let _ ← r.dataType
    expect ","
    let e ← expression r
    let styles ← listIf (accept ",") (expressions r)
    expect ")"
    return .operation "CONVERT" (e :: styles)
  else
    let e ← expression r
    if ← acceptWord "USING" then
      let _ ← objectName
    else
      expect ","
      let _ ← r.dataType
      if ← acceptWords ["CHARACTER", "SET"] then
        let _ ← objectName
    expect ")"
    return .operation "CONVERT" [e]

/-- A part of a time. -/
def timePart : Parse Unit := do
  let d ← dialect
  let found ← take
  match found.map Lexeme.token with
  | some (.word _ none word) =>
    if word == "WEEK" then
      if ← both (return d.isOneOf [.bigquery, .generic]) (accept "(") then
        let _ ← ident
        expect ")"
    else if timeUnits.contains word then return
    else if !d.hasNamedTimeParts then unexpected "date/time field" found
  | some (.word _ (some _) _) => if !d.hasNamedTimeParts then unexpected "date/time field" found
  | some (.text .single _) => if !d.hasQuotedTimeParts then unexpected "date/time field" found
  | _ => unexpected "date/time field" found

/-- A part of a time behind `EXTRACT`. -/
def extraction : Parse Expr := do
  expect "("
  timePart
  unless ← acceptWord "FROM" do
    unless ← both (accept ",") (isIn [.snowflake, .generic]) do refuse "Expected 'FROM' or ','"
  let e ← expression r
  expect ")"
  return .operation "EXTRACT" [e]

/-- A rounding behind its keyword. -/
def rounding (word : String) : Parse Expr := do
  expect "("
  let e ← expression r
  if ← acceptWord "TO" then timePart
  else if ← accept "," then
    let isNumber := match ← peek with
      | some (.number ..) => true
      | _ => false
    let _ ← value
    unless isNumber do refuse "Scale field can only be of number type"
  expect ")"
  return .operation word [e]

/-- A position behind its keyword: of one text in another, or a call. -/
def position (word : Ident) : Parse Expr := do
  let found ← attempt do
    expect "("
    let e ← operandOf r .between
    expectWord "IN"
    let within ← expression r
    expect ")"
    return Expr.operation "POSITION" [e, within]
  match found with
  | some e => return e
  | none => call r [word]

/-- A part of a text behind its keyword. -/
def substring : Parse Expr := do
  expect "("
  let e ← expression r
  let start ← if ← accept "," then single (expression r) else behind r "FROM"
  let length ← if ← acceptWord "FOR" then single (expression r)
    else listIf (accept ",") (single (expression r))
  expect ")"
  return .operation "SUBSTRING" (e :: start ++ length)

/-- A replacement inside a text behind its keyword. -/
def overlay : Parse Expr := do
  expect "("
  let e ← expression r
  expectWord "PLACING"
  let part ← expression r
  expectWord "FROM"
  let start ← expression r
  let length ← behind r "FOR"
  expect ")"
  return .operation "OVERLAY" (e :: part :: start :: length)

/-- A trimming behind its keyword. -/
def trimming : Parse Expr := do
  expect "("
  let _ ← acceptOneOf ["BOTH", "LEADING", "TRAILING"]
  let e ← expression r
  let takesList := both (accept ",") (isIn [.duckdb, .snowflake, .bigquery, .generic])
  let more ← if ← acceptWord "FROM" then single (expression r)
    else listIf takesList (expressions r)
  expect ")"
  return .operation "TRIM" (e :: more)

/-- An interval behind its keyword. -/
def interval : Parse Expr := do
  let needsUnit ← has Dialect.needsIntervalUnit
  let e ← if needsUnit then expression r else r.operand
  if ← atOneOf timeUnits then
    let first ← nextKeyword
    timePart
    if first == "SECOND" then optionalScale
    else
      optionalPrecision
      if ← acceptWord "TO" then
        let last ← nextKeyword
        timePart
        if last == "SECOND" then optionalPrecision
    return .operation "INTERVAL" [e]
  else if needsUnit then refuseHere "INTERVAL requires a unit after the literal value"
  else
    optionalPrecision
    if ← acceptWord "TO" then timePart
    return .operation "INTERVAL" [e]

/-- A negation behind `NOT`. -/
def negation : Parse Expr := do
  if ← acceptWord "EXISTS" then return .operation "NOT EXISTS" [← queryInBrackets r]
  else return .operation "NOT" [← operandOf r .not]

/-- An array behind its opening bracket. -/
def array : Parse Expr := do
  let es ← commasBefore "]" (expression r)
  expect "]"
  return .operation "ARRAY" es

/-- A match of columns against a text behind `MATCH`. -/
def matchAgainst : Parse Expr := do
  let _ ← requiredQualifiedColumns
  expectWord "AGAINST"
  expect "("
  let e ← value
  unless ← acceptWords ["IN", "NATURAL", "LANGUAGE", "MODE", "WITH", "QUERY", "EXPANSION"] do
    unless ← acceptWords ["IN", "NATURAL", "LANGUAGE", "MODE"] do
      unless ← acceptWords ["IN", "BOOLEAN", "MODE"] do
        let _ ← acceptWords ["WITH", "QUERY", "EXPANSION"]
  expect ")"
  return .operation "MATCH" [e]

/-- A structure behind `STRUCT`. -/
def struct : Parse Expr := do
  let isTyped ← accept "<"
  if isTyped then
    let _ ← commas (structField r)
    expect ">"
  let es ← bracketed <| commas do
    let e ← expression r
    if !isTyped then
      if ← acceptWord "AS" then
        let _ ← ident
    return e
  return .operation "STRUCT" es

/-- An entry of a dictionary. -/
def dictionaryEntry : Parse (List Expr) := do
  let key ← expression r
  expect ":"
  let e ← expression r
  return [key, e]

/-- A dictionary behind its opening brace. -/
def dictionary : Parse Expr := do
  let entries ← commasBefore "\x7d" (dictionaryEntry r)
  expect "\x7d"
  return .operation "MAP" entries.flatten

/-- A typed value or a call in braces, behind the opening brace. -/
def braced : Parse (Option Expr) := do
  match ← peek with
  | some (.word text none _) =>
    if ["d", "t", "ts"].contains text then
      attempt do
        skip
        let e ← value
        expect "\x7d"
        return e
    else if text == "fn" then
      attempt do
        skip
        let function ← objectName
        let e ← call r function
        expect "\x7d"
        return e
    else return none
  | _ => return none

/-- A function of time behind its keyword, whose brackets may be left out. -/
def timeFunction (word : Ident) : Parse Expr := do
  let args ← listIf (accept "(") (arguments r)
  return .call [word] args

/-- Names of geometric types that a value may follow. -/
def geometryWords : List String := ["CIRCLE", "BOX", "PATH", "LINE", "LSEG", "POINT", "POLYGON"]

/-- The phrase that a keyword starts, if it starts one. The keyword has been taken as `word`. -/
def phrase? (word : Ident) (keyword : String) : Parse (Option Expr) := do
  let d ← dialect
  let read (p : Parse Expr) : Parse (Option Expr) := do return some (← p)
  match keyword with
  | "TRUE" | "FALSE" => if d.hasTruthValues then return some (.value keyword) else return none
  | "NULL" => return some (.value keyword)
  | "CURRENT_CATALOG" | "CURRENT_USER" | "SESSION_USER" | "USER" =>
    if d.isOneOf [.postgres, .generic] then return some (.call [word] []) else return none
  | "CURRENT_TIMESTAMP" | "CURRENT_TIME" | "CURRENT_DATE" | "LOCALTIME" | "LOCALTIMESTAMP" =>
    read (timeFunction r word)
  | "CASE" => read (caseOf r)
  | "CONVERT" => read (conversion r)
  | "TRY_CONVERT" => if d.hasTryConvert then read (conversion r) else return none
  | "CAST" | "TRY_CAST" | "SAFE_CAST" => read (cast r)
  | "EXISTS" =>
    if d != .databricks || (← isKeywordAt 1 "SELECT") || (← isKeywordAt 1 "WITH") then
      read do return .operation "EXISTS" [← queryInBrackets r]
    else return none
  | "EXTRACT" => read (extraction r)
  | "CEIL" | "FLOOR" => read (rounding r keyword)
  | "POSITION" => if ← atMark "(" then read (position r word) else return none
  | "SUBSTR" | "SUBSTRING" => read (substring r)
  | "OVERLAY" => read (overlay r)
  | "TRIM" => read (trimming r)
  | "INTERVAL" => read (interval r)
  | "ARRAY" =>
    if ← accept "[" then read (array r)
    else if !d.isOneOf [.clickhouse, .databricks] && (← atMark "(") then
      read do return .call [word] [← queryInBrackets r]
    else return none
  | "NOT" => read (negation r)
  | "MATCH" => if d.hasMatchAgainst then read matchAgainst else return none
  | "STRUCT" => if d.hasStructures then read (struct r) else return none
  | "PRIOR" =>
    if (← Parse.inHierarchy) then
      read do return .operation "PRIOR" [← operandOf r .sum]
    else return none
  | "MAP" =>
    if ← both (return d.isOneOf [.duckdb, .generic]) (accept "\x7b") then read (dictionary r)
    else return none
  | _ =>
    if d.hasGeometry && geometryWords.contains keyword then
      read value
    else return none

end QueryFlow.Sql.Grammar
