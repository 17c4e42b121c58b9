import QueryFlow.Fault
import QueryFlow.Sql.Grammar.Statement
import QueryFlow.Text.Matching

/-!
# Reading statements

`readStatements` reads a text in a dialect as statements. A refusal becomes a syntax fault whose
place is the first one that its words name. The words quote the lexeme that does not fit, so a place
that stands in a quoted text is taken for the place of the fault; `Proofs.Sql.Place` says exactly
when.

## How deep the rules are nested

The nesting of the rules is bounded by the number of lexemes and by the limit on nested phrases: a
rule that calls another one either takes a lexeme, or counts as a nested phrase, or does neither a
few times only. `ruleLimit` is a bound with room to spare, and a text that reached it would be
refused as nested too deeply.

Words without a place name line and column zero, and so do numbers that 64 bits do not hold.
-/

namespace QueryFlow.Sql

open QueryFlow.Text QueryFlow.Decimal

/-- The words of a refusal. -/
def Reject.words : Reject → String
  | refused reason none => "sql parser error: " ++ reason
  | refused reason (some place) =>
    "sql parser error: " ++ reason ++ " at Line: " ++ intText place.line ++ ", Column: "
      ++ intText place.column
  | tooDeep => "sql parser error: recursion limit exceeded"

/-- The number that digits write, if it takes at most 64 bits; zero otherwise. -/
def placeNumber (digits : List Char) : Nat :=
  if digits.all Char.isDigit && digitsValue digits < UInt64.size then digitsValue digits else 0

/-- The place that words name from their start on. -/
def placeHere? (cs : List Char) : Option (Nat × Nat) :=
  (literal "Line: ".toList cs).bind fun cs =>
    repeated1 isDigit (fun line cs =>
      (literal ", Column: ".toList cs).bind fun cs =>
        repeated1 isDigit (fun column _ => some (placeNumber line, placeNumber column)) cs) cs

/-- The first place that words name. Words without a place name line and column zero. -/
def firstPlace (words : String) : Nat × Nat :=
  (somewhere placeHere? words.toList).getD (0, 0)

/-- The fault of a text that is refused in these words. -/
def syntaxFault (words : String) : Fault :=
  let (line, column) := firstPlace words
  .sqlSyntax (.refused words) line column

/-- How deeply rules are nested at most, for a number of lexemes. -/
def ruleLimit (count : Nat) : Nat := 8 * (count + 1) + 16 * nestingLimit

/-- The setting at the start of a text. -/
def initialSetting (d : Dialect) : Setting := ⟨d, nestingLimit, false, false⟩

/-- Reads lexemes as statements. -/
def readLexemes (d : Dialect) (lexemes : List Lexeme) : Except Reject (List Statement) :=
  (Grammar.statements (Grammar.rules (ruleLimit lexemes.length))).runOn (initialSetting d) lexemes
    |>.map Prod.fst

/-- Reads a text as statements, and refuses it in the words of the lexer or the grammar. -/
def readText (d : Dialect) (text : String) : Except Reject (List Statement) :=
  match lex d text with
  | .error (reason, place) => .error (.refused reason (some place))
  | .ok lexemes => readLexemes d lexemes

/-- Reads a text as statements. -/
def readStatements (d : Dialect) (text : String) : Except Fault (List Statement) :=
  match readText d text with
  | .error reject => .error (syntaxFault reject.words)
  | .ok statements => .ok statements

end QueryFlow.Sql
