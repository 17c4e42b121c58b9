import QueryFlow.Number.Decimal

/-!
# Writing JSON

A document is laid out over several lines: every item and every field stands on a line of its own,
two more blanks in than the bracket that holds it. Empty lists and objects stay on one line. In a
string, only quotes, backslashes and control characters are escaped, those with a letter of their
own by that letter and the others by their code; every other character stands for itself.

The fields of an object are a list, so they are written in the order in which they are given and
none is dropped. A number is given by its digits, which leaves the form of numbers to whoever writes
them: whole numbers in base ten, doubles by the fewest digits that read back as the same double.

`Document.prettyAt` follows the constructors of a document, with two helpers for the items of a list
and the fields of an object, which are mutually recursive with it. That strings written here are
read back is proved in `Proofs.Json.Written`.
-/

namespace QueryFlow.Json

/-- A JSON value. A number is given by its digits, an object by its fields in their order. -/
inductive Document
  | null
  | number (digits : String)
  | text (s : String)
  | list (items : List Document)
  | object (fields : List (String × Document))

/-- A digit of a number in base sixteen. -/
def hexDigit (n : Nat) : Char := Char.ofNat (if n < 10 then 48 + n else 87 + n)

/-- How a string writes a character: by a letter behind a backslash, by its code, or as itself. -/
def escapedChar (c : Char) : List Char :=
  if c = '"' then ['\\', '"']
  else if c = '\\' then ['\\', '\\']
  else if c.toNat < 32 then
    if c.toNat = 8 then ['\\', 'b']
    else if c.toNat = 9 then ['\\', 't']
    else if c.toNat = 10 then ['\\', 'n']
    else if c.toNat = 12 then ['\\', 'f']
    else if c.toNat = 13 then ['\\', 'r']
    else ['\\', 'u', '0', '0', hexDigit (c.toNat / 16), hexDigit (c.toNat % 16)]
  else [c]

/-- A string in quotes. -/
def quotedText (s : String) : String :=
  "\"" ++ String.ofList (s.toList.flatMap escapedChar) ++ "\""

/-- The end of a line, and the blanks at the start of the next one. -/
def lineBreak (depth : Nat) : String := "\n" ++ String.ofList (List.replicate (2 * depth) ' ')

namespace Document

mutual

/-- The text of a value that stands inside `depth` brackets. -/
def prettyAt (depth : Nat) : Document → String
  | null => "null"
  | number digits => digits
  | text s => quotedText s
  | list [] => "[]"
  | list items =>
    "[" ++ String.intercalate "," (prettyItems (depth + 1) items) ++ lineBreak depth ++ "]"
  | object [] => "\x7b\x7d"
  | object fields =>
    "\x7b" ++ String.intercalate "," (prettyFields (depth + 1) fields) ++ lineBreak depth ++ "\x7d"

/-- The texts of the items of a list. -/
def prettyItems (depth : Nat) : List Document → List String
  | [] => []
  | item :: items => (lineBreak depth ++ item.prettyAt depth) :: prettyItems depth items

/-- The texts of the fields of an object. -/
def prettyFields (depth : Nat) : List (String × Document) → List String
  | [] => []
  | (name, value) :: fields =>
    (lineBreak depth ++ quotedText name ++ ": " ++ value.prettyAt depth)
      :: prettyFields depth fields

end

/-- The text of a document. -/
def pretty (d : Document) : String := d.prettyAt 0

/-- A whole number. -/
def ofNat (n : Nat) : Document := .number (String.ofList (Decimal.natDigits n))

/-- A double, which is null if it is not finite, since numbers of JSON are. -/
def ofDouble (x : Binary64) : Document := ((Decimal.compact? x).map number).getD .null

/-- A list of strings. -/
def ofTexts (texts : List String) : Document := .list (texts.map text)

end Document

end QueryFlow.Json
