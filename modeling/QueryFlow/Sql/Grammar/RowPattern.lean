import QueryFlow.Sql.Grammar.Call

/-!
# Patterns of rows

`MATCH_RECOGNIZE` looks for runs of rows that follow a pattern. A pattern is written like a regular
expression over names, and each name stands for a condition on a row. The conditions and what is
computed of a match are kept as operands of the source.

The pattern itself names no table, so it is only read. Its brackets nest, and the number of its
signs bounds the recursion.
-/

namespace QueryFlow.Sql.Grammar

open Parse

variable (r : Rules)

/-- How often a part of a pattern is repeated, if that is said. -/
def repetition : Parse (Option Unit) := do
  match ← peek with
  | some (.placeholder "?") =>
    skip
    return some ()
  | some (.mark "*") | some (.mark "+") =>
    skip
    return some ()
  | some (.mark "\x7b") =>
    skip
    if ← accept "," then numberValue
    else
      numberValue
      if ← accept "," then
        unless ← atMark "\x7d" do numberValue
    expect "\x7d"
    return some ()
  | _ => return none

/-- A pattern with at most `n` signs. -/
def rowPatternUpTo : Nat → Parse Unit
  | 0 => expected "pattern"
  | n + 1 => do
    part n
    let _ ← many do
      if (← atMark ")") || (← atMark "|") then return none
      part n
      return some ()
    if ← accept "|" then rowPatternUpTo n
where
  /-- A part of a pattern with its repetitions. -/
  part (n : Nat) : Parse Unit := do
    match ← peek with
    | some (.mark "^") | some (.placeholder "$") => skip
    | some (.mark "\x7b") =>
      skip
      expect "-"
      let _ ← ident
      expect "-"
      expect "\x7d"
    | some (.mark "(") =>
      skip
      rowPatternUpTo n
      expect ")"
    | some (.word "PERMUTE" none _) =>
      skip
      let _ ← bracketed (commas ident)
    | _ =>
      let _ ← ident
    let _ ← many repetition

/-- A pattern. -/
def rowPattern : Parse Unit := do rowPatternUpTo ((← get).length + 1)

/-- Something that is computed of a match, and its name. -/
def measure : Parse Expr := do
  let e ← expression r
  let _ ← acceptWord "AS"
  let _ ← ident
  return e

/-- A name of a pattern, and the condition that it stands for. -/
def symbol : Parse Expr := do
  let _ ← ident
  expectWord "AS"
  expression r

/-- Where the search goes on behind a match. -/
def skipping : Parse Unit := do
  if ← acceptWords ["AFTER", "MATCH", "SKIP"] then
    match ← acceptPhrase [["PAST", "LAST", "ROW"], ["TO", "NEXT", "ROW"], ["TO", "FIRST"],
      ["TO", "LAST"]] with
    | some ["TO", _] =>
      let _ ← ident
    | some _ => return
    | none => expected "after match skip option"

/-- Runs of rows that follow a pattern, behind `MATCH_RECOGNIZE`. -/
def recognized : Parse (List Expr) := do
  expect "("
  let parts ← listIf (acceptWords ["PARTITION", "BY"]) (expressions r)
  let order ← listIf (acceptWords ["ORDER", "BY"]) (orderItems r)
  let measures ← listIf (acceptWord "MEASURES") (commas (measure r))
  unless ← acceptWords ["ONE", "ROW", "PER", "MATCH"] do
    if ← acceptWords ["ALL", "ROWS", "PER", "MATCH"] then
      let _ ← acceptPhrase [["SHOW", "EMPTY", "MATCHES"], ["OMIT", "EMPTY", "MATCHES"],
        ["WITH", "UNMATCHED", "ROWS"]]
  skipping
  expectWord "PATTERN"
  bracketed rowPattern
  expectWord "DEFINE"
  let symbols ← commas (symbol r)
  expect ")"
  return parts ++ order ++ measures ++ symbols

end QueryFlow.Sql.Grammar
