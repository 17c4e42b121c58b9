import QueryFlow.Sql.Grammar.Rules

/-!
# Calls of functions

A call names a function and has arguments in brackets. Clauses may stand among the arguments, such
as an order, and behind them, such as a filter or a window. All expressions of the clauses are kept
as operands of the call, behind the arguments, so that a query in any of them is found.

An argument may have a name of its own, with one of several signs between the name and the value;
the name is left out. A window is given in place or by name, and a named window is defined in its
query by the same step.
-/

namespace QueryFlow.Sql.Grammar

open Parse

variable (r : Rules)

/-- An expression or a star. A name with points may end in a star. -/
def starOrExpression : Parse Expr := do
  let start ← get
  let parts (first : Ident) : Parse (Option Expr) := do
    let rec go : Nat → ObjectName → Parse (Option Expr)
      | 0, _ => return none
      | n + 1, before => do
        if ← accept "." then
          let found ← take
          match found.map Lexeme.token with
          | some (.word text quote _) => go n (before ++ [⟨text, quote⟩])
          | some (.text .single body) => go n (before ++ [⟨body, some '\''⟩])
          | some (.mark "*") => return some (.starOf before)
          | _ => unexpected "an identifier or a '*' after '.'" found
        else return none
    go ((← get).length + 1) [first]
  let star ← match (← take).map Lexeme.token with
    | some (.word text quote _) => parts ⟨text, quote⟩
    | some (.text .single body) => parts ⟨body, some '\''⟩
    | some (.mark "*") => pure (some .star)
    | _ => pure none
  match star with
  | some e => return e
  | none =>
    set start
    expression r

/-- What stands between the name of an argument and its value. -/
def argumentOperator : Parse Unit := do
  if ← acceptWord "VALUE" then return
  let d ← dialect
  match ← peek with
  | some (.mark sign) =>
    if sign == "=>" || (sign == ":=" && d.hasAssignedArguments)
        || (sign == ":" && d.hasColonArguments) then skip
    else expected "argument operator"
  | _ => expected "argument operator"

/-- An argument, which may be named. -/
def argument : Parse Expr := do
  let named ← attempt do
    let label ← if ← has Dialect.namesArgumentsByExpressions then expression r
      else do pure (.name [← ident])
    argumentOperator
    let operand ← starOrExpression r
    return Expr.operation "=>" [label, operand]
  match named with
  | some e => return e
  | none => starOrExpression r

/-- A limit of a run of blank values in an order. -/
def filling : Parse (List Expr) := do
  let first ← behind r "FROM"
  let last ← behind r "TO"
  let step ← behind r "STEP"
  return first ++ last ++ step

/-- An expression to order by. -/
def orderItem : Parse (List Expr) := do
  let e ← expression r
  direction
  let fill ← listIf (both (has Dialect.hasColumnStore) (acceptWords ["WITH", "FILL"])) (filling r)
  return e :: fill

/-- Expressions to order by. -/
def orderItems : Parse (List Expr) := do return (← commas (orderItem r)).flatten

/-- Whether an aggregate reads what has no value. -/
def nullTreatment : Parse Unit := do
  if let some _ ← acceptOneOf ["RESPECT", "IGNORE"] then expectWord "NULLS"

/-- What an object does with what has no value. -/
def objectNulls : Parse Unit := do
  unless ← acceptWords ["ABSENT", "ON", "NULL"] do
    let _ ← acceptWords ["NULL", "ON", "NULL"]

/-- What a list does when it grows too long. -/
def overflow : Parse (List Expr) := do
  if ← acceptWords ["ON", "OVERFLOW"] then
    if ← acceptWord "ERROR" then return []
    expectWord "TRUNCATE"
    let filler ← match ← peek with
      | some (.word _ none word) =>
        if word == "WITH" || word == "WITHOUT" then pure []
        else expected "either filler, WITH, or WITHOUT in LISTAGG"
      | some (.text ..) => single (expression r)
      | _ => expected "either filler, WITH, or WITHOUT in LISTAGG"
    unless ← acceptWord "WITH" do
      unless ← acceptWord "WITHOUT" do expected "either WITH or WITHOUT in LISTAGG"
    expectWord "COUNT"
    return filler
  else return []

/-- Arguments and their clauses, up to the closing bracket. -/
def arguments : Parse (List Expr) := do
  let d ← dialect
  objectNulls
  if ← accept ")" then return []
  let place := (← get).head?.map Lexeme.place
  let isAll ← acceptWord "ALL"
  let isDistinct ← acceptWord "DISTINCT"
  if isAll && isDistinct then
    throw (.refused "Cannot specify both ALL and DISTINCT" place)
  let args ← commas (argument r)
  if d.hasNullsInArguments then nullTreatment
  let order ← listIf (acceptWords ["ORDER", "BY"]) (orderItems r)
  let limit ← behind r "LIMIT"
  let bound ← listIf (both (isIn [.generic, .bigquery]) (acceptWord "HAVING")) do
    let _ ← expectOneOf ["MIN", "MAX"]
    single (expression r)
  let separator ← listIf (both (has Dialect.hasMySqlPhrases) (acceptWord "SEPARATOR")) (single value)
  let filler ← overflow r
  objectNulls
  expect ")"
  return args ++ order ++ limit ++ bound ++ separator ++ filler

/-! ### Windows -/

/-- The end of a frame. -/
def frameBound : Parse (List Expr) := do
  if ← acceptWords ["CURRENT", "ROW"] then return []
  let rows ← if ← acceptWord "UNBOUNDED" then pure []
    else
      match ← peek with
      | some (.text .single _) => single r.operand
      | _ => single (expression r)
  unless ← acceptWord "PRECEDING" do
    unless ← acceptWord "FOLLOWING" do expected "PRECEDING or FOLLOWING"
  return rows

/-- The frame of a window. -/
def frame : Parse (List Expr) := do
  let found ← take
  if ["ROWS", "RANGE", "GROUPS"].any fun w => found.any fun l => l.token.isKeyword w then
    if ← acceptWord "BETWEEN" then
      let first ← frameBound r
      expectWord "AND"
      return first ++ (← frameBound r)
    else frameBound r
  else unexpected "ROWS, RANGE, GROUPS" found

/-- A window behind its opening bracket, up to the closing one. -/
def window : Parse (List Expr) := do
  match ← peek with
  | some (.word _ (some _) _) => skip
  | some (.word _ none word) => if !Keyword.isKnown word then skip
  | _ => pure ()
  let parts ← listIf (acceptWords ["PARTITION", "BY"]) (expressions r)
  let order ← listIf (acceptWords ["ORDER", "BY"]) (orderItems r)
  if ← accept ")" then return parts ++ order
  let ends ← frame r
  expect ")"
  return parts ++ order ++ ends

/-- A window with a name. -/
def namedWindow : Parse (List Expr) := do
  let _ ← ident
  expectWord "AS"
  if ← accept "(" then window r
  else if ← isIn [.generic, .bigquery] then
    let _ ← ident
    return []
  else expected "("

/-! ### Calls -/

/-- A call of a function whose name has been taken. -/
def call (function : ObjectName) : Parse Expr := do
  let d ← dialect
  expect "("
  if d.hasQueryArguments && (← atQuery) then
    let q ← r.query
    expect ")"
    return .call function [.subquery q]
  let first ← arguments r
  let args ← if ← both (return d.hasFunctionParameters) (accept "(") then
      pure (first ++ (← arguments r))
    else pure first
  let group ← listIf (acceptWords ["WITHIN", "GROUP"]) <| bracketed do
    expectWords ["ORDER", "BY"]
    orderItems r
  let filter ← listIf (both (has Dialect.hasFilter)
      (both (acceptWord "FILTER") (both (accept "(") (acceptWord "WHERE")))) do
    let e ← expression r
    expect ")"
    return [e]
  nullTreatment
  let windowed ← listIf (acceptWord "OVER") do
    if ← accept "(" then window r
    else
      let _ ← ident
      return []
  return .call function (args ++ group ++ filter ++ windowed)

end QueryFlow.Sql.Grammar
