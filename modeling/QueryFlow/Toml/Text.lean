import QueryFlow.Toml.Scan

/-!
# Texts in TOML

A text stands in double quotes or in single ones, and in either case it may span lines if there are
three of them. Between double quotes a backslash starts an escape; between single quotes every
character stands for itself. A text over several lines does not begin with the end of the line that
follows the opening quotes, and it may end in one or two quotes of its own kind.

* `Text.read` reads a text of any of the four forms;
* `Text.write` writes a text in the first form that needs no escapes, and else with escapes.

## Which form is written

`formOf` looks at three things: whether a character can only be written by an escape, whether there
are ends of lines, and how many quotes of either kind stand side by side. A text with none of these
goes between two double quotes. A backslash or a double quote sends it to single quotes, an end of a
line or a single quote to three quotes of a kind of which it has no three in a row. What is left
needs escapes and goes between double quotes. There `escapedTail` writes quotes as they are as long
as fewer than three stand side by side, so it carries the number of those that it has just written.

Whatever form is chosen, the text is read back: this is proved in `Proofs.Toml.Text`.
-/

namespace QueryFlow.Toml.Text

open Scan

/-! ### Reading -/

/-- The value of a digit in base sixteen. -/
def hexValue? (c : Char) : Option Nat :=
  if c.isDigit then some (c.toNat - 48)
  else if 'a' ≤ c ∧ c ≤ 'f' then some (c.toNat - 87)
  else if 'A' ≤ c ∧ c ≤ 'F' then some (c.toNat - 55)
  else none

/-- The number that some digits in base sixteen write, unless one of them is no such digit. -/
def hexNumber? (digits : List Char) : Option Nat :=
  digits.foldlM (fun n c => (hexValue? c).map fun d => 16 * n + d) 0

/-- The character that a number of digits in base sixteen name. -/
def namedChar (count : Nat) : Scan Char := fun cs =>
  let digits := cs.take count
  if digits.length = count then
    (hexNumber? digits).bind fun n =>
      if n.isValidChar then some (Char.ofNat n, cs.drop count) else none
  else none

/-- An escape behind its backslash. -/
def escape : Scan Char := do
  match ← next with
  | 'b' => return '\x08'
  | 't' => return '\t'
  | 'n' => return '\n'
  | 'f' => return '\x0c'
  | 'r' => return '\r'
  | '"' => return '"'
  | '\\' => return '\\'
  | 'u' => namedChar 4
  | 'U' => namedChar 8
  | _ => refuse

/-- A character between two double quotes. -/
def basicChar : Scan (Option Char) := do
  match ← peek with
  | some '"' => return none
  | some '\\' =>
    let _ ← next
    return some (← escape)
  | some c =>
    if isVisible c then
      let _ ← next
      return some c
    else refuse
  | none => refuse

/-- A text between two double quotes, of which the first has been taken. -/
def basic : Scan (List Char) := do
  let body ← many basicChar
  exactly '"'
  return body

/-- A text between two single quotes, of which the first has been taken. -/
def literal : Scan (List Char) := do
  let body ← spanOf fun c => isVisible c && c != '\''
  exactly '\''
  return body

/-- The end of a line that a backslash hides, with all blanks and ends of lines behind it. -/
def hiddenBreak : Scan Unit := do
  blanks
  newline
  let _ ← many do
    match ← attempt newline with
    | some _ => return some ()
    | none =>
      let run ← spanOf isLineBlank
      return if run.isEmpty then none else some ()

/-- A run of quotes inside a text over several lines, or at its end: the quotes that belong to the
text, and whether the text ends. The last three of a long run end it, and at most two in front of
them belong to it. -/
def quoteRun (quote : Char) : Scan (List Char × Bool) := do
  let run ← spanOf (· == quote)
  if run.length < 3 then return (run, false)
  else
    let own := min (run.length - 3) 2
    modify fun rest => List.replicate (run.length - 3 - own) quote ++ rest
    return (List.replicate own quote, true)

/-- A character of a text over several lines between double quotes. -/
def longBasicChar : Scan (List Char) := do
  match ← next with
  | '\\' =>
    match ← attempt hiddenBreak with
    | some _ => return []
    | none => return [← escape]
  | '\n' => return ['\n']
  | '\r' =>
    exactly '\n'
    return ['\n']
  | c => if isVisible c then return [c] else refuse

/-- A character of a text over several lines between single quotes. -/
def longLiteralChar : Scan (List Char) := do
  match ← next with
  | '\n' => return ['\n']
  | '\r' =>
    exactly '\n'
    return ['\n']
  | c => if isVisible c then return [c] else refuse

/-- At most `n` characters and runs of quotes, up to the end of a text over several lines. -/
def longUpTo (quote : Char) (char : Scan (List Char)) : Nat → Scan (List Char)
  | 0 => refuse
  | n + 1 => do
    match ← peek with
    | none => refuse
    | some c =>
      if c == quote then
        let (own, ends) ← quoteRun quote
        if ends then return own else return own ++ (← longUpTo quote char n)
      else
        let first ← char
        return first ++ (← longUpTo quote char n)

/-- A text over several lines behind its opening quotes. -/
def long (quote : Char) (char : Scan (List Char)) : Scan (List Char) := do
  let _ ← attempt newline
  longUpTo quote char ((← get).length + 1)

/-- A text on one line. -/
def readShort : Scan String := do
  match ← next with
  | '"' => return String.ofList (← basic)
  | '\'' => return String.ofList (← literal)
  | _ => refuse

/-- A text of any form. -/
def read : Scan String := do
  match ← attempt (phrase ['"', '"', '"']) with
  | some _ => return String.ofList (← long '"' longBasicChar)
  | none =>
    match ← attempt (phrase ['\'', '\'', '\'']) with
    | some _ => return String.ofList (← long '\'' longLiteralChar)
    | none => readShort

/-! ### Writing -/

/-- The forms of a text: two kinds of quotes, and one or three of them. -/
inductive Form
  | basic
  | literal
  | longBasic
  | longLiteral
deriving DecidableEq, Repr

/-- The opening and the closing quotes of a form. -/
def Form.quotes : Form → String
  | basic => "\""
  | literal => "'"
  | longBasic => "\"\"\""
  | longLiteral => "'''"

/-- The length of the longest run of a character, where `run` of them have just been passed. -/
def longestRun (c : Char) : (run : Nat) → List Char → Nat
  | run, [] => run
  | run, d :: rest =>
    if d = c then longestRun c (run + 1) rest else max run (longestRun c 0 rest)

/-- A character that only an escape can write: a control character other than a tab and the end of a
line. -/
def needsEscape (c : Char) : Bool :=
  c != '\t' && c != '\n' && (c.toNat < 32 || c.toNat == 127)

/-- The form that a text is written in: the first one in which it needs no escapes, and double
quotes if there is none. -/
def formOf (cs : List Char) : Form :=
  let isOpaque := cs.any needsEscape
  let breaks := cs.contains '\n'
  let doubles := longestRun '"' 0 cs
  let singles := longestRun '\'' 0 cs
  if !isOpaque && !cs.contains '\\' && doubles == 0 && !breaks then .basic
  else if !isOpaque && singles == 0 && !breaks then .literal
  else if !isOpaque && !cs.contains '\\' && doubles ≤ 2 then .longBasic
  else if !isOpaque && singles ≤ 2 then .longLiteral
  else if breaks then .longBasic
  else .basic

/-- A digit in base sixteen. -/
def hexDigit (n : Nat) : Char := Char.ofNat (if n < 10 then 48 + n else 55 + n)

/-- The escape of a character. -/
def escaped (c : Char) : List Char :=
  if c = '\x08' then ['\\', 'b']
  else if c = '\t' then ['\\', 't']
  else if c = '\n' then ['\\', 'n']
  else if c = '\x0c' then ['\\', 'f']
  else if c = '\r' then ['\\', 'r']
  else if c = '"' then ['\\', '"']
  else if c = '\\' then ['\\', '\\']
  else ['\\', 'u', '0', '0', hexDigit (c.toNat / 16), hexDigit (c.toNat % 16)]

/-- A text between double quotes, where `run` quotes have just been written as they are. At most
`quotes` of them stand side by side, and `breaks` says whether the ends of lines are written as they
are. -/
def escapedTail (quotes : Nat) (breaks : Bool) : (run : Nat) → List Char → List Char
  | _, [] => []
  | run, c :: rest =>
    if c = '"' then
      if run < quotes then c :: escapedTail quotes breaks (run + 1) rest
      else escaped c ++ escapedTail quotes breaks 0 rest
    else if c = '\\' || c == '\t' || needsEscape c || (c == '\n' && !breaks) then
      escaped c ++ escapedTail quotes breaks 0 rest
    else c :: escapedTail quotes breaks 0 rest

/-- What stands between the quotes of a form. -/
def bodyOf (form : Form) (cs : List Char) : List Char :=
  match form with
  | .basic => escapedTail 0 false 0 cs
  | .longBasic => escapedTail 2 true 0 cs
  | .literal => cs
  | .longLiteral => cs

/-- Writes a text. A text over several lines starts on a line of its own. -/
def write (s : String) : String :=
  let cs := s.toList
  let form := formOf cs
  let isLong := form = .longBasic ∨ form = .longLiteral
  form.quotes ++ (if isLong && cs.contains '\n' then "\n" else "") ++ String.ofList (bodyOf form cs)
    ++ form.quotes

end QueryFlow.Toml.Text
