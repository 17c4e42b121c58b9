import QueryFlow.Sql.Parse

/-!
# The rules that call each other

Expressions hold queries, queries hold expressions and tables, and tables hold both. The parts of
the grammar are therefore written over a record of the rules that they call, and the record is tied
to itself in one place, at the end of `Sql.Grammar.Statement`. A module of the grammar thus depends
on no other one that comes after it, and each rule is an ordinary definition with the record as an
argument.

Beside the record stand the short phrases that every part uses: names, lists of columns, plain
values, options and the direction of an order. They need no rules but that for expressions. A value
is kept as it is written; a number is checked only where the grammar asks for one without point or
exponent.
-/

namespace QueryFlow.Sql

open Parse

/-- The rules of the grammar that other rules call. -/
structure Rules where
  /-- An expression of operators that bind more strongly than a given strength. -/
  expr : Nat → Parse Expr
  /-- An operand of an expression. -/
  operand : Parse Expr
  /-- A query. -/
  query : Parse Query
  /-- The body of a query, up to operators of a given strength. -/
  body : Nat → Parse Body
  /-- Something that rows are read from. -/
  source : Parse Source
  /-- What is joined to a source. -/
  joins : Parse (List Join)
  /-- A type of values. -/
  dataType : Parse DataType
  /-- A statement that changes rows, behind its first keyword. -/
  change : String → Parse Statement
  /-- A statement. -/
  statement : Parse Statement

namespace Grammar

variable (r : Rules)

/-- An expression of any strength. -/
def expression : Parse Expr := r.expr 0

/-- Expressions with commas between them. -/
def expressions : Parse (List Expr) := commas (expression r)

/-- An expression as the only one of a list. -/
def single (p : Parse Expr) : Parse (List Expr) := do return [← p]

/-- An expression behind a keyword, if the keyword is next. -/
def behind (word : String) : Parse (List Expr) :=
  listIf (acceptWord word) (single (expression r))

/-! ### Names -/

/-- A part of a name. -/
def identOf? : Token → Option Ident
  | .word text quote _ => some ⟨text, quote⟩
  | .text .single body => some ⟨body, some '\''⟩
  | .text .double body => some ⟨body, some '"'⟩
  | _ => none

/-- A name of one part. -/
def ident : Parse Ident := do
  let found ← take
  match found.bind fun l => identOf? l.token with
  | some part => return part
  | none => unexpected "identifier" found

/-- The name of an object. Where the dialect leaves a schema out between two points, the name has an
empty part there. -/
def objectName : Parse ObjectName := do
  let first ← ident
  let omitted ← both (has Dialect.hasDoubleDots) (both (atMark ".") (isMarkAt 1 "."))
  if omitted then skip
  let more ← many (given (accept ".") ident)
  return first :: (if omitted then [⟨"", none⟩] else []) ++ more

/-- Names of columns in brackets; without brackets there are none. -/
def columns (mayBeEmpty : Bool) : Parse (List Ident) := do
  if ← atMark "(" then
    bracketed do
      if mayBeEmpty && (← atMark ")") then return [] else commas ident
  else return []

/-- Names of columns in brackets, which have to be there. -/
def requiredColumns (mayBeEmpty : Bool) : Parse (List Ident) := do
  if ← atMark "(" then columns mayBeEmpty
  else expected "a list of columns in parentheses"

/-- Qualified names of columns in brackets, which have to be there. -/
def requiredQualifiedColumns : Parse (List ObjectName) := do
  if ← atMark "(" then bracketed (commas objectName)
  else expected "a list of columns in parentheses"

/-! ### Plain values -/

/-- A text, or a word that is no keyword. -/
def literalText : Parse String := do
  let found ← take
  match found.map Lexeme.token with
  | some (.word text none spelling) =>
    if Keyword.isKnown spelling then unexpected "literal string" found else return text
  | some (.word text (some _) _) => return text
  | some (.text .single body) => return body
  | some (.text .double body) => return body
  | some (.text .escaped body) =>
    if ← has Dialect.valuesEscapeTexts then return body else unexpected "literal string" found
  | some (.text .codePoints body) => return body
  | _ => unexpected "literal string" found

/-- A text of one byte. -/
def literalChar : Parse String := do
  let found := (← get).head?
  let text ← literalText
  if text.utf8ByteSize = 1 then return text
  else throw (.refused ("Expect a char, found \"" ++ text ++ "\"") (found.map Lexeme.place))

/-- A number without point and exponent. -/
def literalNumber : Parse Unit := do
  let found ← take
  match found.map Lexeme.token with
  | some (.number digits _) =>
    if digits.toList.all Char.isDigit && digits.length ≤ 20 then return
    else throw (.refused ("Could not parse '" ++ digits ++ "' as u64") (found.map Lexeme.place))
  | _ => unexpected "literal int" found

/-- A number in brackets, if brackets are next. -/
def optionalPrecision : Parse Unit := do
  if ← accept "(" then
    literalNumber
    expect ")"

/-- A value. -/
def value : Parse Expr := do
  let found ← take
  let refusal : Parse Expr := unexpected "a value" found
  match found.map Lexeme.token with
  | some (.word text quote spelling) =>
    match quote with
    | none =>
      if spelling == "NULL" || ((spelling == "TRUE" || spelling == "FALSE")
          && (← has Dialect.hasTruthValues)) then return .value spelling
      else unexpected "a concrete value" found
    | some q => if q == '"' then return .value text else refusal
  | some (.number digits _) => return .value digits
  | some (.text .escaped body) =>
    if ← has Dialect.valuesEscapeTexts then return .value body else refusal
  | some (.text _ body) => return .value body
  | some (.placeholder n) => return .value n
  | some (.mark sign) =>
    if sign == ":" || sign == "@" then
      let next ← take
      match next with
      | some ⟨.word text _ _, _, false⟩ => return .value (sign ++ text)
      | some ⟨.number digits false, _, false⟩ => return .value (sign ++ digits)
      | some ⟨_, _, true⟩ =>
        throw (.refused "Expected: placeholder, found: blank space"
          (found.map fun l => l.place.after ':'))
      | _ => unexpected "placeholder" next
    else refusal
  | _ => refusal

/-- A number. -/
def numberValue : Parse Unit := do
  let found := (← get).head?
  match found.map Lexeme.token with
  | some (.number ..) => skip
  | some (.placeholder _) => skip
  | _ => unexpected "literal number" found

/-! ### Options -/

/-- Options in brackets behind a keyword, if the keyword is next. -/
def options (word : String) : Parse (List Expr) := do
  if ← acceptWord word then
    let lists ← bracketed (commasBefore ")" do
      let keyed ← attempt do
        let _ ← ident
        expect "="
        single (expression r)
      match keyed with
      | some operands => return operands
      | none => single (expression r))
    return lists.flatten
  else return []

/-- The direction of an order, and where it puts what has no value. -/
def direction : Parse Unit := do
  let _ ← acceptOneOf ["ASC", "DESC"]
  if ← acceptWords ["NULLS", "FIRST"] then return
  let _ ← acceptWords ["NULLS", "LAST"]

end Grammar

end QueryFlow.Sql
