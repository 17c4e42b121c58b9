import QueryFlow.Toml.Number
import QueryFlow.Toml.Text
import QueryFlow.Toml.Tree

/-!
# The lines of a TOML text

A text is a list of statements: each opens a table, opens a further table of a list of tables, or
gives a key of the open table a value. Keys may be paths. Statements end with their line, and
between them stand blanks, empty lines and comments.

## Nesting

Values may be nested, in lists and in tables in braces, up to a limit. `valueUpTo` recurses on the
number of levels that are left, and takes the reader of the values inside as the same function one
level further down; the items of a list and the keys of a table in braces recurse on the length of
the text. So the readers of lists and of tables are defined apart, for any reader of items.

## Main statement

* `bareKey_append`: a key without quotes ends before the first character that cannot stand in it.
-/

namespace QueryFlow.Toml

open Scan

/-- How deeply values and paths may be nested. Anything deeper is refused. -/
def nestingLimit : Nat := 80

/-! ### Keys -/

/-- A character of a key without quotes. -/
def isKeyChar (c : Char) : Bool := c.isAlphanum || c == '-' || c == '_'

/-- A key without quotes. -/
def bareKey : Scan String := do return String.ofList (← spanOf1 isKeyChar)

/-- A key. -/
def key : Scan String := do
  match ← peek with
  | some '"' => Text.readShort
  | some '\'' => Text.readShort
  | _ => bareKey

/-- A path of keys, with points between them, and blanks around them. -/
def path : Scan Path := do
  blanks
  let first ← key
  blanks
  let more ← many do
    if ← accept '.' then
      blanks
      let k ← key
      blanks
      return some k
    else return none
  let keys := first :: more
  if keys.length < nestingLimit then
    return ⟨keys.dropLast, keys.getLast (by simp [keys])⟩
  else refuse

/-! ### Values -/

/-- The items of a list behind its opening bracket. -/
def listItems (item : Scan Value) : Nat → Scan (List Value)
  | 0 => refuse
  | n + 1 => do
    gap
    if ← accept ']' then return []
    let first ← item
    gap
    if ← accept ',' then return first :: (← listItems item n)
    exactly ']'
    return [first]

/-- A key of a table in braces, with its value. -/
def pair (item : Scan Value) : Scan (Path × Value) := do
  let p ← path
  exactly '='
  blanks
  let v ← item
  blanks
  return (p, v)

/-- The further keys of a table in braces. -/
def furtherPairs (item : Scan Value) : Nat → Scan (List (Path × Value))
  | 0 => refuse
  | n + 1 => do
    if ← accept ',' then
      let p ← pair item
      return p :: (← furtherPairs item n)
    exactly '\x7d'
    return []

/-- The keys of a table in braces behind its opening brace. -/
def pairs (item : Scan Value) : Scan (List (Path × Value)) := do
  blanks
  if ← accept '\x7d' then return []
  let first ← pair item
  return first :: (← furtherPairs item ((← get).length + 1))

/-- A value that holds no other one. -/
def plainValue : Scan Value := do
  match ← peek with
  | some '"' => return .text (← Text.read)
  | some '\'' => return .text (← Text.read)
  | some 't' =>
    phrase ['t', 'r', 'u', 'e']
    return .boolean true
  | some 'f' =>
    phrase ['f', 'a', 'l', 's', 'e']
    return .boolean false
  | _ =>
    (do date; return .date) <|> (do float; return .float) <|> (do return .integer (← integer))

/-- A value that holds at most `n` levels of others. Its first character says which kind it is. -/
def valueUpTo : Nat → Scan Value
  | 0 => plainValue
  | n + 1 => do
    match ← peek with
    | some '[' =>
      let _ ← next
      return .list (← listItems (valueUpTo n) ((← get).length + 1))
    | some '\x7b' =>
      let _ ← next
      match Tree.ofPairs? (← pairs (valueUpTo n)) with
      | some tree => return .table (Tree.fieldValues tree)
      | none => refuse
    | _ => plainValue

/-- A value. -/
def value : Scan Value := valueUpTo (nestingLimit - 1)

/-! ### Statements -/

/-- A statement of a text. -/
inductive Statement
  /-- Opens a table. -/
  | table (path : Path)
  /-- Opens a further table of a list of tables. -/
  | listed (path : Path)
  /-- Gives a key of the open table a value. -/
  | assign (path : Path) (value : Value)

/-- A statement. -/
def statement : Scan Statement := do
  match ← peek with
  | some '[' =>
    let _ ← next
    if ← accept '[' then
      let p ← path
      phrase [']', ']']
      lineEnd
      return .listed p
    else
      let p ← path
      exactly ']'
      lineEnd
      return .table p
  | _ =>
    let p ← path
    exactly '='
    blanks
    let v ← value
    lineEnd
    return .assign p v

/-- Blanks, ends of lines and comments between statements. -/
def between : Scan Unit := do
  let _ ← many do
    blanks
    match ← peek with
    | some '#' =>
      comment
      lineEnd
      return some ()
    | some '\n' =>
      newline
      return some ()
    | some '\r' =>
      newline
      return some ()
    | _ => return none

/-- At most `n` statements, up to the end of the text. -/
def statementsUpTo : Nat → Scan (List Statement)
  | 0 => refuse
  | n + 1 => do
    between
    if ← atEnd then return []
    let first ← statement
    return first :: (← statementsUpTo n)

/-- The statements of a text. A mark of its byte order may stand in front. -/
def statements (text : String) : Option (List Statement) :=
  let cs := match text.toList with
    | '\ufeff' :: rest => rest
    | cs => cs
  (statementsUpTo (cs.length + 1) cs).map Prod.fst

/-- **A key without quotes ends before the first character that cannot stand in it.** -/
theorem bareKey_append {k rest : List Char} (filled : k ≠ [])
    (all : ∀ c ∈ k, isKeyChar c = true) (ends : ∀ c, rest.head? = some c → isKeyChar c = false) :
    bareKey (k ++ rest) = some (String.ofList k, rest) := by
  simp [bareKey, bind_apply, spanOf1_append filled all ends]

end QueryFlow.Toml
