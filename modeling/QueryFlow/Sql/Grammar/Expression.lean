import QueryFlow.Sql.Grammar.Phrase

/-!
# Expressions

An expression is an operand that operators extend. An operand starts with a keyword of its own, is a
value, a name, a call, or stands in brackets. Names are extended by points and brackets before any
operator is considered.

## How far an expression goes

`exprRule` reads one operand and then extends it as long as the operator that follows binds more
strongly than the strength it was called with. `extended` reads such an operator with its right
side, which is an expression of that operator's strength, so operators of one strength associate to
the left.

Where a phrase that starts with a keyword is refused, the keyword is tried as a name, since many of
them are names as well. An expression counts as one more nested phrase.
-/

namespace QueryFlow.Sql.Grammar

open Parse

variable (r : Rules)

/-! ### Operands -/

/-- The mark of an outer join is next. -/
def atOuterJoinMark : Parse Bool :=
  both (has Dialect.hasOuterJoinMark) (both (atMark "(") (both (isMarkAt 1 "+") (isMarkAt 2 ")")))

/-- What a word is that starts no phrase: the name of a function before a bracket, and else the name
of a column. -/
def wordOperand (word : Ident) : Parse Expr := do
  match ← peek with
  | some (.mark sign) =>
    if sign == "(" && !(← atOuterJoinMark) then call r [word]
    else if sign == "->" && (← has Dialect.hasLambdas) then
      skip
      return .operation "->" [← expression r]
    else return .name [word]
  | some (.text style body) =>
    if word.text.startsWith "_" && [.single, .double, .hexadecimal].contains style then
      skip
      return .value body
    else return .name [word]
  | _ => return .name [word]

/-- A word that does not name anything by itself. -/
def isReservedName (d : Dialect) (keyword : String) : Bool :=
  Keyword.reservedForNames.contains keyword && !(d == .snowflake && keyword == "INTERVAL")

/-- An operand that starts with a word, which has been taken. Where the phrase that the word starts
is refused, the word is tried as a name. -/
def operandOfWord (word : Ident) (keyword : String) : Parse (Expr × Bool) := do
  match ← outcome (phrase? r word keyword) with
  | .ok (some e) => return (e, true)
  | .ok none => return (← wordOperand r word, true)
  | .error reject =>
    if !isReservedName (← dialect) keyword then
      match ← outcome (wordOperand r word) with
      | .ok e => return (e, false)
      | .error _ => throw reject
    else throw reject

/-- What a bracket holds: a query, or expressions. -/
def inBrackets : Parse Expr := do
  if ← atQuery then
    let q ← r.query
    expect ")"
    return .subquery q
  let function ← if ← has Dialect.hasLambdas then
      attempt do
        let _ ← commas ident
        expect ")"
        expect "->"
        return Expr.operation "->" [← expression r]
    else pure none
  match function with
  | some e => return e
  | none =>
    let es ← expressions r
    expect ")"
    return .operation "()" es

/-- Marks that stand before an operand and bind as strongly as a sum, by dialect. -/
def isPrefixMark (d : Dialect) (sign : String) : Bool :=
  sign == "~" || (d == .postgres && ["!!", "|/", "||/", "@"].contains sign)
    || (d.hasGeometry && ["#", "@-@", "@@", "?-", "?|"].contains sign)

/-- An operand, which has not been taken, that starts with a mark. -/
def operandOfMark (sign : String) (found : Option Lexeme) : Parse Expr := do
  let d ← dialect
  if sign == "[" then
    skip
    array r
  else if sign == "+" || sign == "-" then
    skip
    return .operation sign [← operandOf r .product]
  else if sign == "!" && d.hasBangNot then
    skip
    return .operation sign [← operandOf r .not]
  else if isPrefixMark d sign then
    skip
    return .operation sign [← operandOf r .sum]
  else if sign == "(" then
    skip
    inBrackets r
  else if sign == ":" || sign == "@" then value
  else if sign == "\x7b" then
    skip
    match ← braced r with
    | some e => return e
    | none => if d.hasDictionaries then dictionary r else unexpected "an expression" found
  else
    skip
    unexpected "an expression" found

/-- A value that a type stands before. -/
def typedValue : Parse Expr := do
  match ← r.dataType with
  | .interval => interval r
  | .custom _ => refuse "not a type of values"
  | .builtIn _ => value

/-- An operand without its collation, and whether a collation may follow. -/
def bareOperand : Parse (Expr × Bool) := do
  match ← attempt (typedValue r) with
  | some e => return (e, false)
  | none =>
    let found := (← get).head?
    match found.map Lexeme.token with
    | some (.word text quote spelling) =>
      skip
      operandOfWord r ⟨text, quote⟩ (if quote.isNone then spelling else "")
    | some (.mark sign) => return (← operandOfMark r sign found, true)
    | some (.text .escaped _) =>
      if ← has Dialect.valuesEscapeTexts then return (← value, true)
      else
        skip
        unexpected "an expression" found
    | some (.number ..) | some (.text ..) | some (.placeholder _) => return (← value, true)
    | _ =>
      skip
      unexpected "an expression" found

/-- An operand. -/
def operandRule : Parse Expr := do
  let (e, isOpen) ← bareOperand r
  if isOpen && !(← inColumn) then
    if ← acceptWord "COLLATE" then
      let _ ← objectName
      return .operation "COLLATE" [e]
    else return e
  else return e

/-! ### Paths -/

/-- Joins two parts of a path into a name, or into a call of a qualified function. -/
def joinPath : Expr → Expr → Expr
  | .name first, .name second => .name (first ++ second)
  | .name first, .call function args => .call (first ++ function) args
  | first, second => .operation "." [first, second]

/-- A part of an array behind its opening bracket. -/
def subscript : Parse (List Expr) := do
  let bound := operandOf r .subscript
  if ← accept ":" then
    upper bound []
  else
    let low ← bound
    if ← accept "]" then return [low]
    expect ":"
    upper bound [low]
where
  /-- The upper bound and the step. -/
  upper (bound : Parse Expr) (before : List Expr) : Parse (List Expr) := do
    if ← accept "]" then return before
    let high ← bound
    if ← accept "]" then return before ++ [high]
    expect ":"
    if ← accept "]" then return before ++ [high]
    let step ← bound
    expect "]"
    return before ++ [high, step]

/-- A part of a path that points and brackets extend. -/
def pathStep (root : Expr) : Parse (Option Expr) := do
  let d ← dialect
  if ← atMark "." then
    if ← isMarkAt 1 "*" then
      match d, root with
      | .postgres, .name table =>
        skip
        skip
        return some (.starOf table)
      | .postgres, _ =>
        skip
        skip
        expected "an identifier or a '*' after '.'"
      | _, _ => return none
    else
      skip
      match ← peek with
      | some (.text .single body) =>
        skip
        return some (joinPath root (.name [⟨body, some '\''⟩]))
      | _ => return some (joinPath root (← operandOf r .path))
  else if ← both (return !d.hasValuePaths) (accept "[") then
    return some (.operation "[]" (root :: (← subscript r)))
  else return none

/-- A path from its root on. -/
def path (root : Expr) : Parse Expr := do
  let whole ← chain (fun e =>
    match e with
    | .starOf _ => return none
    | e => pathStep r e) root
  if ← atOuterJoinMark then
    match whole with
    | .name _ =>
      let _ ← acceptMarks ["(", "+", ")"]
      return .operation "(+)" [whole]
    | _ => expected "column identifier before (+)"
  else return whole

/-- A path into a nested value: keys behind a colon and points, and expressions in brackets. -/
def valuePath : Parse (List Expr) := do
  let key : Parse (List Expr) := do
    let found ← take
    match found.map Lexeme.token with
    | some (.word _ none _) => return []
    | some (.word _ (some '"') _) => return []
    | some (.text .double _) => return []
    | _ => unexpected "variant object key name" found
  let first ← listIf (accept ":") key
  let more ← many do
    if ← accept "." then return some (← key)
    else if ← accept "[" then
      let e ← expression r
      expect "]"
      return some [e]
    else return none
  return first ++ more.flatten

/-! ### Operators -/

/-- What follows `IN`. -/
def membership (e : Expr) : Parse Expr := do
  if ← acceptWord "UNNEST" then return .operation "IN" [e, ← bracketed (expression r)]
  expect "("
  match ← attempt r.query with
  | some q =>
    expect ")"
    return .operation "IN" [e, .subquery q]
  | none =>
    let es ← if ← has Dialect.hasEmptyIn then commasBefore ")" (expression r) else expressions r
    expect ")"
    return .operation "IN" (e :: es)

/-- The bounds that follow `BETWEEN`. -/
def range (e : Expr) : Parse Expr := do
  let low ← operandOf r .between
  expectWord "AND"
  let high ← operandOf r .between
  return .operation "BETWEEN" [e, low, high]

/-- The pattern that follows a keyword, and its escape character. -/
def pattern (word : String) (e : Expr) : Parse Expr := do
  let p ← operandOf r .like
  if ← acceptWord "ESCAPE" then
    let _ ← value
  return .operation word [e, p]

/-- What follows `IS`. -/
def property (e : Expr) : Parse Expr := do
  for words in [["NULL"], ["NOT", "NULL"], ["TRUE"], ["NOT", "TRUE"], ["FALSE"], ["NOT", "FALSE"],
      ["UNKNOWN"], ["NOT", "UNKNOWN"]] do
    if ← acceptWords words then return .operation "IS" [e]
  if ← acceptWords ["DISTINCT", "FROM"] then return .operation "IS" [e, ← expression r]
  if ← acceptWords ["NOT", "DISTINCT", "FROM"] then return .operation "IS" [e, ← expression r]
  let _ ← acceptWord "NOT"
  let _ ← acceptOneOf ["NFC", "NFD", "NFKC", "NFKD"]
  if ← acceptWord "NORMALIZED" then return .operation "IS" [e]
  expected "[NOT] NULL | TRUE | FALSE | DISTINCT | [form] NORMALIZED FROM after IS"

/-- What follows an operand and `NOT`, or one of the keywords that may follow `NOT`. -/
def negatable (e : Expr) : Parse Expr := do
  let isNegated ← acceptWord "NOT"
  if let some word ← acceptOneOf ["REGEXP", "RLIKE"] then
    return .operation word [e, ← operandOf r .like]
  let isNull ← both (return !(← inColumn)) (acceptWord "NULL")
  if isNegated && isNull then return .operation "IS" [e]
  else if ← acceptWord "IN" then membership r e
  else if ← acceptWord "BETWEEN" then range r e
  else if ← acceptWord "LIKE" then
    let _ ← acceptWord "ANY"
    pattern r "LIKE" e
  else if ← acceptWord "ILIKE" then
    let _ ← acceptWord "ANY"
    pattern r "ILIKE" e
  else if ← acceptWords ["SIMILAR", "TO"] then pattern r "SIMILAR TO" e
  else expected "IN or BETWEEN after NOT"

/-- What follows an operator between two operands: an operand, or all values of a query. -/
def comparand (sign : String) (strength : Nat) (place : Option Position) (left : Expr) :
    Parse Expr := do
  match ← acceptOneOf ["ANY", "ALL", "SOME"] with
  | some word =>
    let start ← get
    expect "("
    let right ← if ← atQuery then do
        set start
        r.expr strength
      else do
        let e ← r.expr strength
        expect ")"
        pure e
    if comparesAny sign then return .operation (sign ++ " " ++ word) [left, right]
    else throw (.refused ("Expected one of the comparison operators, found: " ++ sign) place)
  | none => return .operation sign [left, ← r.expr strength]

/-- A custom operator by its name, in brackets. -/
def namedOperator : Parse String := do
  expect "("
  let parts ← items (accept ".") do
    match ← take with
    | some l => return l.token.shown
    | none => return "EOF"
  expect ")"
  return String.intercalate "." parts

/-- An operand extended by the operator that follows, which binds with a strength. -/
def extended (left : Expr) (strength : Nat) : Parse Expr := do
  let d ← dialect
  let start ← get
  let found ← take
  let place := found.map Lexeme.place
  let noOperator : Parse Expr := do
    throw (.refused ("No infix parser for token " ++ (found.map fun l => l.token.shown).getD "")
      place)
  match found.map Lexeme.token with
  | some (.word _ none word) =>
    if ["AND", "OR", "XOR", "OVERLAPS"].contains word then comparand r word strength place left
    else if word == "OPERATOR" && d.isOneOf [.postgres, .generic] then
      comparand r (← namedOperator) strength place left
    else if word == "IS" then property r left
    else if word == "AT" then
      expectWords ["TIME", "ZONE"]
      return .operation "AT TIME ZONE" [left, ← r.expr strength]
    else if ["NOT", "IN", "BETWEEN", "LIKE", "ILIKE", "SIMILAR"].contains word then
      set start
      negatable r left
    else if word == "REGEXP" || word == "RLIKE" then
      set start
      negatable r left
    else if word == "DIV" && d == .mysql then
      return .operation "DIV" [left, ← expression r]
    else if word == "NOTNULL" && d.hasNotNullOperator then return .operation "IS" [left]
    else if word == "MEMBER" then
      if ← acceptWord "OF" then
        return .operation "MEMBER OF" [left, ← bracketed (expression r)]
      else expected "OF after MEMBER"
    else noOperator
  | some (.operator sign) => comparand r sign strength place left
  | some (.mark sign) =>
    if isBinaryMark d sign then comparand r sign strength place left
    else if sign == "::" then
      let _ ← r.dataType
      return .operation "CAST" [left]
    else if sign == "!" && d.hasFactorial then return .operation "!" [left]
    else if (sign == "[" && d.hasValuePaths) || sign == ":" then
      set start
      return .operation ":" (left :: (← valuePath r))
    else noOperator
  | _ => noOperator

/-- An expression of operators that bind more strongly than `strength`. -/
def exprRule (strength : Nat) : Parse Expr := deeper do
  let first ← path r (← r.operand)
  chain (fun e => do
    let next ← strengthAhead
    if next ≤ strength then return none
    else if ← atMark "." then return none
    else return some (← extended r e next)) first

end QueryFlow.Sql.Grammar
