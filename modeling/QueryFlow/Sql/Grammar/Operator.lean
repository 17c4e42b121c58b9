import QueryFlow.Sql.Grammar.Rules

/-!
# Operators

How strongly operators bind. An expression goes on as long as the operator that follows binds more
strongly than the one it belongs to. `strengthAhead` looks at the next lexemes and says how strongly
they bind; what is no operator binds with strength zero.

Operators come in classes, and a dialect gives each class its strength: all of them agree but one,
whose numbers are its own. So a mark or a keyword is looked up in two stages, first for its class
and then for the strength of the class. Keywords may need the words behind them, as `NOT` does.
-/

namespace QueryFlow.Sql

/-- The classes of operators. -/
inductive Binding
  | or
  | and
  | xor
  | not
  | is
  | like
  | between
  | comparison
  | bitOr
  | bitXor
  | bitAnd
  | sum
  | product
  | timeZone
  | special
  | subscript
  | collation
  | path
deriving DecidableEq, Repr

namespace Binding

/-- How strongly a class of operators binds in PostgreSQL. -/
def postgresStrength : Binding → Nat
  | path => 200
  | subscript => 140
  | collation => 120
  | timeZone => 110
  | bitXor => 100
  | product => 90
  | sum => 80
  | xor => 75
  | bitAnd | bitOr | special => 70
  | between | like => 60
  | comparison => 50
  | is => 40
  | not => 30
  | and => 20
  | or => 10

/-- How strongly a class of operators binds. -/
def commonStrength : Binding → Nat
  | path => 100
  | subscript => 50
  | collation => 42
  | timeZone => 41
  | product => 40
  | sum => 30
  | xor => 24
  | bitAnd => 23
  | bitXor => 22
  | bitOr => 21
  | between | comparison => 20
  | like => 19
  | is => 17
  | special => 16
  | not => 15
  | and => 10
  | or => 5

/-- How strongly a class of operators binds in a dialect. -/
def strength (d : Dialect) (b : Binding) : Nat :=
  if d = .postgres then postgresStrength b else commonStrength b

end Binding

namespace Grammar

open Parse

/-- The strength of a class of operators in the dialect that is being read. -/
def strengthOf (b : Binding) : Parse Nat := return b.strength (← dialect)

/-- An operand of operators of a class. -/
def operandOf (r : Rules) (b : Binding) : Parse Expr := do r.expr (← strengthOf b)

/-- Marks that compare. -/
def comparisonMarks : List String :=
  [":=", "=", "<", "<=", "<>", ">", ">=", "==", "~", "~*", "!~", "!~*", "~~", "~~*", "!~~", "!~~*",
    "<=>"]

/-- Marks of operators on geometric values. -/
def geometryMarks : List String :=
  ["?-", "##", "&<", "&>", "?-|", "&<|", "|&>", "<->", "<^", ">^", "?#", "?||", "~=", "<<|", "|>>",
    "@-@"]

/-- Marks of the operators that only some dialects have. -/
def specialMarks : List String :=
  ["->", "->>", "#>", "#>>", "@>", "<@", "#-", "@?", "@@", "?", "?&", "?|"]

/-- Marks that bind like `specialMarks` in PostgreSQL only. -/
def postgresMarks : List String := ["!", "&&", "^@", "||", "#", ">>", "<<"]

/-- The class of a mark between two operands. -/
def bindingOfMark? (d : Dialect) (sign : String) : Option Binding :=
  if d == .postgres && postgresMarks.contains sign then some .special
  else if specialMarks.contains sign then some .special
  else if sign == "." then some .path
  else if comparisonMarks.contains sign then some .comparison
  else if sign == "|" then some .bitOr
  else if d.hasGeometry && geometryMarks.contains sign then some .special
  else if ["^", "#", ">>", "<<"].contains sign then some .bitXor
  else if sign == "&" then some .bitAnd
  else if sign == "+" || sign == "-" then some .sum
  else if ["*", "/", "//", "%", "||"].contains sign then some .product
  else if ["::", "!", "[", "&&", "^@"].contains sign then some .subscript
  else if sign == ":" && d == .snowflake then some .subscript
  else none

/-- The class of a keyword between two operands. -/
def bindingOfWord? (d : Dialect) (inColumn : Bool) (word second third : String) :
    Option Binding :=
  match word with
  | "OR" => some .or
  | "AND" => some .and
  | "XOR" => some .xor
  | "AT" => if second == "TIME" && third == "ZONE" then some .timeZone else none
  | "NOT" =>
    if second == "IN" || second == "BETWEEN" then some .between
    else if ["LIKE", "ILIKE", "RLIKE", "REGEXP", "MATCH", "SIMILAR", "MEMBER"].contains second then
      some .like
    else if second == "NULL" && !inColumn then some .is
    else none
  | "NOTNULL" => if d.hasNotNullOperator then some .is else none
  | "IS" => some .is
  | "IN" | "BETWEEN" | "OVERLAPS" | "OPERATOR" => some .between
  | "LIKE" | "ILIKE" | "RLIKE" | "REGEXP" | "MATCH" | "SIMILAR" | "MEMBER" => some .like
  | "DIV" => some .product
  | "COLLATE" => if d == .postgres && !inColumn then some .collation else none
  | _ => none

/-- How strongly the next lexemes bind as an operator. -/
def strengthAhead : Parse Nat := do
  let setting ← read
  let d := setting.dialect
  match ← peek with
  | some (.word _ none word) =>
    let binding := bindingOfWord? d setting.inColumn word (← keywordAt 1) (← keywordAt 2)
    return (binding.map (Binding.strength d)).getD 0
  | some (.mark sign) =>
    if d == .postgres && sign == "[" then return 130
    else return ((bindingOfMark? d sign).map (Binding.strength d)).getD 0
  | some (.operator _) => return Binding.special.strength d
  | _ => return 0

/-- Marks that stand between two operands in every dialect. -/
def binaryMarks : List String :=
  comparisonMarks ++ specialMarks ++ ["+", "-", "*", "%", "||", "|", "^", "&", "/"]

/-- The mark stands between two operands. -/
def isBinaryMark (d : Dialect) (sign : String) : Bool :=
  binaryMarks.contains sign
    || (sign == "//" && d.isOneOf [.duckdb, .generic])
    || ((sign == "<<" || sign == ">>") && d.isOneOf [.postgres, .duckdb, .generic, .redshift])
    || (sign == "#" && d.isOneOf [.postgres, .redshift])
    || (sign == "&&" && d.isOneOf [.postgres, .redshift, .generic])
    || (sign == "^@" && d.isOneOf [.postgres, .generic])
    || (d.hasGeometry && geometryMarks.contains sign)

/-- Operators that compare a value with the values of a query. -/
def comparesAny (sign : String) : Bool := comparisonMarks.contains sign && sign != ":="

end Grammar

end QueryFlow.Sql
