import QueryFlow.Text.Matching
import QueryFlow.Text.Letter
import QueryFlow.Text.Comment

/-!
# The lines of a slow log

Each kind of line has a pattern:

* a *section* starts with `# Time: `;
* a *record* starts with a line that names its user, host, address and connection;
* the *metadata* line names two times and two counts of rows;
* a line that starts with `use` chooses a database;
* the *set* line carries the time stamp of the query.

The parts are given as they are written; what they mean is decided by the reader of the log.

The patterns search as regular expressions do. A run of characters is as long as possible at first
and is shortened until what follows it can be read, so that a pattern is written as a function from
what follows a run to the answer, and the answer is that of the longest run that has one. This
matters in the first line of a record, where an account may contain what looks like its own end. The
metadata and the set line may have other text around them; of the places where their pattern could
start, the first one that works is taken.

Main statement: `isSection_iff`, a section starts with its marker.
-/

namespace QueryFlow.Log

open QueryFlow.Text

/-- The line starts a section. -/
def isSection (line : String) : Bool := (literal "# Time: ".toList line.toList).isSome

/-- What the first line of a record names. Every part is kept as it is written; the connection is a
row of digits that need not fit in any number. -/
structure Caller where
  /-- The account, with the name in brackets. -/
  user : String
  /-- The name of the machine, which may be empty. -/
  host : String
  /-- The network address. -/
  address : String
  /-- The connection. -/
  connection : String
deriving DecidableEq, Repr

/-- Any character that does not end a line. -/
def isInline (c : Char) : Bool := c != '\n'

/-- The first character is `l`, and `k` succeeds on what follows. With `repeated` it reads a run up
to a mark, going back to earlier marks if need be. -/
def marked {α : Type} (l : Char) (k : List Char → Option α) : List Char → Option α
  | [] => none
  | c :: rest => if c == l then k rest else none

/-- Reads the number of the connection, up to the end of the line, where only white space may follow
it. -/
def connection? (make : List Char → Caller) (cs : List Char) : Option Caller :=
  (literal "Id:".toList cs).bind fun cs =>
    repeated isBlank (fun _ cs =>
      repeated1 isDigit (fun digits cs =>
        if cs.all isBlank then some (make digits) else none) cs) cs

/-- Reads the first line of a record. The account ends with a bracketed name and an `@` follows it;
the address stands in brackets. -/
def caller? (line : String) : Option Caller :=
  (literal "# User@Host: ".toList line.toList).bind <|
    repeated isInline fun account =>
      marked '[' <| repeated isInline fun inner =>
        marked ']' <| repeated isBlank fun _ =>
          marked '@' <| repeated isBlank fun _ =>
            repeated (fun c => !isBlank c) fun host =>
              repeated isBlank fun _ =>
                marked '[' <| repeated isInline fun address =>
                  marked ']' <| repeated isBlank fun _ =>
                    connection? fun digits =>
                      { user := trim (String.ofList (account ++ '[' :: inner ++ [']']))
                        host := String.ofList host
                        address := String.ofList address
                        connection := String.ofList digits }

/-- The line starts a record. -/
def isRecord (line : String) : Bool := (caller? line).isSome

/-- The four numbers of a metadata line, as they are written: what looks like a number here need not
be one, as `1.2.3` is not. -/
structure Metadata where
  queryTime : List Char
  lockTime : List Char
  rowsSent : List Char
  rowsExamined : List Char
deriving DecidableEq, Repr

/-- A digit or a decimal point. -/
def isNumeral (c : Char) : Bool := isDigit c || c == '.'

/-- Reads a metadata line, which may have other text around it. -/
def metadata? (line : String) : Option Metadata :=
  somewhere (fun cs =>
    (literal "# Query_time: ".toList cs).bind <|
      repeated1 isNumeral fun queryTime => repeated isBlank fun _ cs =>
        (literal "Lock_time: ".toList cs).bind <|
          repeated1 isNumeral fun lockTime => repeated isBlank fun _ cs =>
            (literal "Rows_sent: ".toList cs).bind <|
              repeated1 isDigit fun rowsSent => repeated isBlank fun _ cs =>
                (literal "Rows_examined: ".toList cs).bind <|
                  repeated1 isDigit fun rowsExamined _ =>
                    some ⟨queryTime, lockTime, rowsSent, rowsExamined⟩)
    line.toList

/-- The line chooses a database. -/
def isUse (line : String) : Bool :=
  ((keyword "use".toList line.toList).bind <|
    repeated1 isBlank fun _ =>
      repeated1 isInline fun _ => marked ';' fun _ => some ()).isSome

/-- Reads the time stamp of a set line, which may have other text around it. Only ASCII digits
count, and a comma or a semicolon must follow them. -/
def setTimestamp? (line : String) : Option (List Char) :=
  somewhere (fun cs =>
    (literal "SET".toList cs).bind <|
      repeated1 isBlank fun _ cs =>
        (literal "timestamp=".toList cs).bind <|
          repeated1 Char.isDigit fun digits cs =>
            match cs with
            | ',' :: _ => some digits
            | ';' :: _ => some digits
            | _ => none)
    line.toList

/-- The text of a statement that the server ran on its own, to tell that no index was used. -/
def isDiagnostic (sql : String) : Bool := occurs "index not used".toList sql.toList

/-- **A section starts with its marker.** -/
theorem isSection_iff (line : String) :
    isSection line = true ↔ ∃ rest, line.toList = "# Time: ".toList ++ rest := by
  rw [isSection, Option.isSome_iff_exists]
  exact exists_congr fun rest => literal_eq_some_iff _ _ rest

end QueryFlow.Log
