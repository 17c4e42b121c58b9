import QueryFlow.Sql.Grammar.Alias

/-!
# Tables read from documents

`JSON_TABLE`, `OPENJSON` and `XMLTABLE` make rows of a document. Each takes the document, a path to
the parts that become rows, and its own list of columns. A column of a JSON document may hold a list
of columns again. What can hold a query, the document and the expressions of an XML table, is kept
as operands of the source; paths and plain defaults are values.
-/

namespace QueryFlow.Sql.Grammar

open Parse

variable (r : Rules)

/-- The number of the row as a column, if it is asked for. -/
def acceptOrdinality : Parse Bool := do
  if ← acceptWord "FOR" then
    expectWord "ORDINALITY"
    return true
  else return false

/-! ### JSON documents -/

/-- What a column holds where its path leads nowhere or to something else, if that is said. -/
def columnFallback : Parse (Option Unit) := do
  match ← acceptOneOf ["NULL", "ERROR", "DEFAULT"] with
  | none => return none
  | some word =>
    if word == "DEFAULT" then
      let _ ← value
    expectWord "ON"
    unless ← acceptWord "EMPTY" do expectWord "ERROR"
    return some ()

/-- A column of a JSON document whose lists of columns are at most `n` deep. -/
def jsonColumnUpTo : Nat → Parse Unit
  | 0 => expected "column"
  | n + 1 => do
    if ← acceptWord "NESTED" then
      let _ ← acceptWord "PATH"
      let _ ← value
      expectWord "COLUMNS"
      let _ ← bracketed (commas (jsonColumnUpTo n))
    else
      let _ ← ident
      unless ← acceptOrdinality do
        let _ ← r.dataType
        let _ ← acceptWord "EXISTS"
        expectWord "PATH"
        let _ ← value
        let _ ← many columnFallback

/-- The rows of a JSON document, behind `JSON_TABLE` and its opening bracket. -/
def jsonTable : Parse Source := do
  let document ← expression r
  expect ","
  let _ ← value
  expectWord "COLUMNS"
  let _ ← bracketed (commas (jsonColumnUpTo r ((← get).length + 1)))
  expect ")"
  return .expressions [document] (← tableAlias r)

/-- A column of an opened JSON document. -/
def openedColumn : Parse Unit := do
  let _ ← ident
  let _ ← r.dataType
  if let some (.text .single _) := ← peek then skip
  if ← acceptWord "AS" then expectWord "JSON"

/-- The rows of an opened JSON document, behind `OPENJSON` and its opening bracket. -/
def openedTable : Parse Source := do
  let document ← expression r
  let _ ← given (accept ",") value
  expect ")"
  let _ ← given (acceptWord "WITH") (bracketed (commas (openedColumn r)))
  return .expressions [document] (← tableAlias r)

/-! ### XML documents -/

/-- A namespace and its name. -/
def xmlNamespace : Parse Expr := do
  let uri ← expression r
  expectWord "AS"
  let _ ← ident
  return uri

/-- A document that is handed to the path. -/
def xmlPassed : Parse Expr := do
  if ← acceptWord "BY" then
    let _ ← attempt (expectWord "VALUE")
  let e ← expression r
  if ← acceptWord "AS" then
    let _ ← ident
  return e

/-- A column of an XML document. -/
def xmlColumn : Parse (List Expr) := do
  let _ ← ident
  if ← acceptOrdinality then return []
  let _ ← r.dataType
  let path ← behind r "PATH"
  let default ← behind r "DEFAULT"
  unless ← acceptWords ["NOT", "NULL"] do
    let _ ← acceptWord "NULL"
  return path ++ default

/-- The rows of an XML document, behind `XMLTABLE` and its opening bracket. -/
def xmlTable : Parse Source := do
  let namespaces ← listIf (acceptWord "XMLNAMESPACES") do
    let es ← bracketed (commas (xmlNamespace r))
    expect ","
    return es
  let path ← expression r
  let passed ← listIf (acceptWord "PASSING") (commas (xmlPassed r))
  expectWord "COLUMNS"
  let fields ← commas (xmlColumn r)
  expect ")"
  return .expressions (namespaces ++ path :: passed ++ fields.flatten) (← tableAlias r)

/-- The rule for a table read from a document, if a name of one and a bracket are next. -/
def documentTable? : Parse (Option Source) := do
  if !(← isMarkAt 1 "(") then return none
  match ← acceptOneOf ["JSON_TABLE", "OPENJSON", "XMLTABLE"] with
  | none => return none
  | some word =>
    skip
    if word == "JSON_TABLE" then return some (← jsonTable r)
    else if word == "OPENJSON" then return some (← openedTable r)
    else return some (← xmlTable r)

end QueryFlow.Sql.Grammar
