import QueryFlow.Number.Decimal

/-!
# Tokens of SQL

The text of a statement is read as a list of lexemes: tokens with their places and with a note on
whether blank space stands before them. A word keeps its quote and, if it has none, the spelling by
which keywords are recognised; a word in quotes has no spelling, so it is never taken for a keyword.

All fixed marks are one constructor with the sign as a text, and so are the operators that users
define. The grammar compares signs and never looks inside them.

`Token.shown` writes a token as a message quotes it, with its quotes. Messages of refusals are made
of such texts, and a text in quotes may spell anything, also a place.
-/

namespace QueryFlow.Sql

open QueryFlow.Decimal

/-- A place in a text: line and column, both counted from one and in characters. -/
structure Position where
  /-- The number of the line, which ends of lines raise. -/
  line : Nat
  /-- The number of the character in its line. -/
  column : Nat
deriving DecidableEq, Repr

namespace Position

/-- The first place of a text. -/
def start : Position := ⟨1, 1⟩

/-- The place behind a character. -/
def after (p : Position) (c : Char) : Position :=
  if c == '\n' then ⟨p.line + 1, 1⟩ else ⟨p.line, p.column + 1⟩

/-- The place behind some characters. -/
def afterAll (p : Position) (cs : List Char) : Position := cs.foldl after p

end Position

/-- The ways to write a text. -/
inductive TextStyle
  | single
  | double
  | tripleSingle
  | tripleDouble
  | dollar (tag : String)
  | singleBytes
  | doubleBytes
  | tripleSingleBytes
  | tripleDoubleBytes
  | singleRaw
  | doubleRaw
  | tripleSingleRaw
  | tripleDoubleRaw
  | national
  | escaped
  | codePoints
  | hexadecimal
deriving DecidableEq, Repr

/-- What stands before and behind a text of a style. -/
def TextStyle.quotes : TextStyle → String × String
  | single => ("'", "'")
  | double => ("\"", "\"")
  | tripleSingle => ("'''", "'''")
  | tripleDouble => ("\"\"\"", "\"\"\"")
  | dollar tag => ("$" ++ tag ++ "$", "$" ++ tag ++ "$")
  | singleBytes => ("B'", "'")
  | doubleBytes => ("B\"", "\"")
  | tripleSingleBytes => ("B'''", "'''")
  | tripleDoubleBytes => ("B\"\"\"", "\"\"\"")
  | singleRaw => ("R'", "'")
  | doubleRaw => ("R\"", "\"")
  | tripleSingleRaw => ("R'''", "'''")
  | tripleDoubleRaw => ("R\"\"\"", "\"\"\"")
  | national => ("N'", "'")
  | escaped => ("E'", "'")
  | codePoints => ("U&'", "'")
  | hexadecimal => ("X'", "'")

/-- A token. -/
inductive Token
  /-- A word, its quote and the spelling that keywords are compared with. -/
  | word (text : String) (quote : Option Char) (spelling : String)
  /-- A number, as it is written. -/
  | number (digits : String) (long : Bool)
  /-- A text without its quotes. -/
  | text (style : TextStyle) (body : String)
  /-- A fixed mark such as a comma or an operator. -/
  | mark (sign : String)
  /-- An operator that users define. -/
  | operator (sign : String)
  /-- A placeholder for a value. -/
  | placeholder (name : String)
  /-- Any other character. -/
  | stray (c : Char)
deriving DecidableEq, Repr

namespace Token

/-- The quote that closes what `quote` opens. -/
def closing (quote : Char) : Char := if quote == '[' then ']' else quote

/-- A token as a message quotes it. -/
def shown : Token → String
  | word name none _ => name
  | word name (some quote) _ => quote.toString ++ name ++ (closing quote).toString
  | number digits long => if long then digits ++ "L" else digits
  | text style body => style.quotes.1 ++ body ++ style.quotes.2
  | mark sign => sign
  | operator sign => sign
  | placeholder name => name
  | stray c => c.toString

/-- The token is the fixed mark `sign`. -/
def isMark (sign : String) : Token → Bool
  | mark s => s == sign
  | _ => false

/-- The token is the keyword `spelling`. -/
def isKeyword (spelling : String) : Token → Bool
  | word _ none s => s == spelling
  | _ => false

/-- The token is a word. -/
def isWord : Token → Bool
  | word .. => true
  | _ => false

end Token

/-- A token, the place where it starts, and whether blank space stands before it. -/
structure Lexeme where
  token : Token
  place : Position
  spaced : Bool
deriving DecidableEq, Repr

end QueryFlow.Sql
