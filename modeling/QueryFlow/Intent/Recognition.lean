import QueryFlow.Intent.Context
import QueryFlow.Sql.Relations
import QueryFlow.Text.Letter
import QueryFlow.Text.Matching
import QueryFlow.Text.Quoted

/-!
# Statements recognised by their text

Some statements are understood without the grammar, because it does not know how a warehouse writes
them, or because they are notes of the engine rather than statements. Their text is read with the
matchers of `Text.Matching`, which try longer matches first and give back what they have read when
what follows them fails.

* `isMaintenanceText` — what the engine does to keep its store in order;
* `warehouseUnload?` — an unloading whose query stands in quotes;
* `warehouseCopy?` — a copy into a table from a place in quotes, with whatever options behind it.

Keywords count in any case, and quoted texts write a quote twice. White space is optional where a
bracket or a quote separates already, and needed between two words.

## What is not looked at

Nothing is asked about what follows a recognised text: options of a copy or of an unloading, in any
dialect, may stand behind the place. The table of a copy is a run of the characters that names are
written with, taken as a text and normalized like a name of the grammar; the columns in brackets are
skipped up to the first closing bracket.

That the three recognisers do not get in each other's way is proved in `Proofs.Intent.Recognition`,
and what they read back from a statement in `Proofs.Intent.WarehouseUnload` and
`Proofs.Intent.WarehouseCopy`.
-/

namespace QueryFlow.Intent

open QueryFlow.Text

/-- A word ends before these characters: there are none, or the next one does not go on with the
word. -/
def atBoundary (cs : List Char) : Bool := !cs.head?.any isWord

/-- The text starts with a keyword that ends there. -/
def isWordHere (word : String) (cs : List Char) : Bool :=
  (keyword word.toList cs).any atBoundary

/-- The text starts with a keyword and white space behind it. -/
def isSpacedWordHere (word : String) (cs : List Char) : Bool :=
  (keyword word.toList cs).any fun rest => rest.head?.any isBlank

/-- The text starts with the note that transactions are undone: how many of them stands between two
words. -/
def isUndoingHere (cs : List Char) : Bool :=
  ((keyword "undoing".toList cs).bind <|
    repeated1 isBlank fun _ =>
      repeated1 isDigit fun _ =>
        repeated1 isBlank fun _ rest => keyword "transactions".toList rest).isSome

/-- A text without blank space before it describes what the engine does to keep its store in order.
Keywords that are words of the language must end where they are read, those that open a note need
white space behind them. -/
def isMaintenanceHere (cs : List Char) : Bool :=
  isWordHere "vacuum" cs || isWordHere "analyze" cs
    || (keyword "padb_fetch_sample:".toList cs).isSome
    || isSpacedWordHere "fetch" cs || isUndoingHere cs
    || isWordHere "deallocate" cs || isSpacedWordHere "close" cs

/-- The text describes what the engine does to keep its store in order, after whatever white space.
-/
def isMaintenanceText (text : String) : Bool := isMaintenanceHere (trimStart text.toList)

/-- A quoted text, given to `k` as it reads with its doubled quotes undone, and what follows it. A
later closing quote is tried if `k` fails at an earlier one. -/
def quotedText {α : Type} (k : String → List Char → Option α) : List Char → Option α
  | '\'' :: rest => quotedBody (fun body rest => k (String.ofList (unquote body)) rest) rest
  | _ => none

/-- The character `l` is next, and `k` reads what follows it. -/
def isNext {α : Type} (l : Char) (k : List Char → Option α) : List Char → Option α
  | [] => none
  | c :: rest => if c == l then k rest else none

/-- Reads an unloading whose query stands in quotes: the query and the place. -/
def warehouseUnload? (text : String) : Option (String × String) :=
  (keyword "unload".toList (trimStart text.toList)).bind <|
    repeated isBlank fun _ => isNext '(' <|
      repeated isBlank fun _ => quotedText fun query =>
        repeated isBlank fun _ => isNext ')' <|
          repeated isBlank fun _ cs => (keyword "to".toList cs).bind <|
            repeated1 isBlank fun _ => quotedText fun location _ => some (query, location)

/-- A character of the name of a table that is copied to. -/
def isTableChar (c : Char) : Bool := isWord c || c == '$' || c == '.' || c == '"'

/-- What follows the table and the columns of a copy: the place in quotes that it copies from. -/
def copyOrigin (cs : List Char) : Option String :=
  (keyword "from".toList cs).bind <|
    repeated1 isBlank fun _ => quotedText fun location _ => some location

/-- The columns of a copy in brackets, whatever they are, and the place that it copies from. -/
def columnsAndOrigin (cs : List Char) : Option String :=
  isNext '(' (repeated (fun c => c != ')') fun _ =>
    isNext ')' <| repeated isBlank fun _ => copyOrigin) cs

/-- Reads a copy into a table from a place in quotes, with or without columns between the two. -/
def warehouseCopy? (text : String) : Option Copying :=
  (keyword "copy".toList (trimStart text.toList)).bind <|
    repeated1 isBlank fun _ =>
      repeated1 isTableChar fun table =>
        repeated isBlank fun _ cs =>
          (columnsAndOrigin cs <|> copyOrigin cs).map fun location =>
            { direction := .inward
              tables := .singleton (Sql.normalize (String.ofList table))
              location }

end QueryFlow.Intent
