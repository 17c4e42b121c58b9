import QueryFlow.Number.Decimal
import QueryFlow.Text.Shown

/-!
# What can be wrong with a JSON text

A flaw has a cause and a place. The place is kept as the number of bytes that follow it, which is
what a reader that works on the rest of its input knows; `Flaw.message` turns it into a column, once
the size of the whole text is known again. Texts are read line by line, so the line of a flaw is
always the first one.

The causes are those of two stages. The first of them concern the text: it ends too early, or
something else stands where a bracket, a comma or a value is due. The last ones concern what was
read: a value of another kind than the one asked for, a number that does not fit, a field that is
missing or given twice. `Kind.describe` names what was found instead, with the content of small
values.
-/

namespace QueryFlow.Json

/-- The kinds of value, with the content of the small ones. -/
inductive Kind
  | null
  | boolean (b : Bool)
  | integer (i : Int)
  | float (x : Binary64)
  | text (s : String)
  | sequence
  | map
deriving DecidableEq

/-- A kind of value as a message names it. -/
def Kind.describe : Kind → String
  | .null => "null"
  | .boolean b => "boolean \x60" ++ (if b then "true" else "false") ++ "\x60"
  | .integer i => "integer \x60" ++ Decimal.intText i ++ "\x60"
  | .float x => "floating point \x60" ++ (Decimal.compact? x).getD "NaN" ++ "\x60"
  | .text s => "string " ++ Text.shown s
  | .sequence => "sequence"
  | .map => "map"

/-- The causes of a flaw. Those that end with something found say what it was, and what was expected
in its place. -/
inductive Cause
  /-- The text ends inside a list. -/
  | endInList
  /-- The text ends inside an object. -/
  | endInObject
  /-- The text ends inside a string. -/
  | endInString
  /-- The text ends where a value is due. -/
  | endInValue
  /-- A colon is due. -/
  | colonExpected
  /-- A comma or the end of the list is due. -/
  | listEndExpected
  /-- A comma or the end of the object is due. -/
  | objectEndExpected
  /-- A literal name is misspelt. -/
  | nameExpected
  /-- A value is due. -/
  | valueExpected
  /-- A backslash is followed by something that it cannot escape. -/
  | badEscape
  /-- A number is misspelt. -/
  | badNumber
  /-- A number is too large for a double. -/
  | numberTooLarge
  /-- A control character stands in a string. -/
  | controlCharacter
  /-- A key of an object is no string. -/
  | keyExpected
  /-- A surrogate is not paired with another. -/
  | loneSurrogate
  /-- A leading surrogate is followed by something that is no escape. -/
  | surrogateExpected
  /-- A comma stands before the end of a list or object. -/
  | trailingComma
  /-- Something follows where the text must end. -/
  | trailingCharacters
  /-- A value of one kind stands where `expected` is due. -/
  | wrongKind (found : Kind) (expected : String)
  /-- A number does not fit where `expected` is due. -/
  | outOfRange (found : Kind) (expected : String)
  /-- A list of `length` elements stands where `expected` is due. -/
  | wrongLength (length : Nat) (expected : String)
  /-- A field is missing. -/
  | missingField (name : String)
  /-- A field is given twice. -/
  | duplicateField (name : String)
deriving DecidableEq

/-- The wording of a cause. -/
def Cause.message : Cause → String
  | .endInList => "EOF while parsing a list"
  | .endInObject => "EOF while parsing an object"
  | .endInString => "EOF while parsing a string"
  | .endInValue => "EOF while parsing a value"
  | .colonExpected => "expected \x60:\x60"
  | .listEndExpected => "expected \x60,\x60 or \x60]\x60"
  | .objectEndExpected => "expected \x60,\x60 or \x60\x7d\x60"
  | .nameExpected => "expected ident"
  | .valueExpected => "expected value"
  | .badEscape => "invalid escape"
  | .badNumber => "invalid number"
  | .numberTooLarge => "number out of range"
  | .controlCharacter => "control character (\\u0000-\\u001F) found while parsing a string"
  | .keyExpected => "key must be a string"
  | .loneSurrogate => "lone leading surrogate in hex escape"
  | .surrogateExpected => "unexpected end of hex escape"
  | .trailingComma => "trailing comma"
  | .trailingCharacters => "trailing characters"
  | .wrongKind found expected => "invalid type: " ++ found.describe ++ ", expected " ++ expected
  | .outOfRange found expected => "invalid value: " ++ found.describe ++ ", expected " ++ expected
  | .wrongLength length expected =>
    "invalid length " ++ Decimal.intText length ++ ", expected " ++ expected
  | .missingField name => "missing field \x60" ++ name ++ "\x60"
  | .duplicateField name => "duplicate field \x60" ++ name ++ "\x60"

/-- A flaw in a text of one line. -/
structure Flaw where
  /-- What is wrong. -/
  cause : Cause
  /-- The number of bytes of the text behind the place of the flaw. -/
  left : Nat
deriving DecidableEq

/-- The column of a flaw in a text of `size` bytes. -/
def Flaw.column (size : Nat) (f : Flaw) : Nat := size - f.left

/-- The wording of a flaw in a text of `size` bytes. -/
def Flaw.message (size : Nat) (f : Flaw) : String :=
  f.cause.message ++ " at line 1 column " ++ Decimal.intText (f.column size)

end QueryFlow.Json
