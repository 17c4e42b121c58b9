import QueryFlow.Json.Scan

/-!
# Rows of a query history

A row is an object with the fields below, in any order, or a list of their values in this order. The
database may be missing and is then empty; the mark of an aborted query may be missing and is then
not set. Other fields of an object are passed over.

* `Draft` — the fields found so far;
* `HistoryRow.read` — a row from its text.

The text is read from left to right in one go, and the first thing in it that does not fit is the
flaw that is reported, with its place. So the order of the checks is part of what is modelled: a key
that comes twice is refused before its second value is looked at, a missing field is noticed at the
end of the object, and a value of the wrong kind is read to its end, since a flaw inside of it comes
first.

In an object each field is looked up by its key; `Draft` keeps what was found, and `Draft.finish`
makes the row of it, naming the first field that is missing. In a list the fields are known by their
positions, and a list that ends early is one of the wrong length, unless only fields with a default
are missing there.
-/

namespace QueryFlow.Log

open QueryFlow.Json

/-- One row of a query history. The time stamps are kept as they are written and are read only when
the row is turned into an entry. -/
structure HistoryRow where
  userId : Int
  queryId : Int
  /-- When the query started, as it is written. -/
  startTime : String
  /-- When the query ended, as it is written. -/
  endTime : String
  database : String
  aborted : Bool
  query : String
deriving DecidableEq, Repr

namespace HistoryRow

/-! ### Values -/

/-- The next value is of another kind than `expected`. The value is read first where it is short, so
that a flaw in it is reported instead; a list or an object is named by its first bracket. -/
def wrongKind {α : Type} (expected : String) (cs : List Char) : Except Flaw α :=
  let wrong (found : Kind) (rest : List Char) : Except Flaw α :=
    .error (flawHere (.wrongKind found expected) rest)
  match cs with
  | 'n' :: rest => (name ['u', 'l', 'l'] rest).bind fun (_, rest) => wrong .null rest
  | 't' :: rest => (name ['r', 'u', 'e'] rest).bind fun (_, rest) => wrong (.boolean true) rest
  | 'f' :: rest => (name ['a', 'l', 's', 'e'] rest).bind fun (_, rest) => wrong (.boolean false) rest
  | '"' :: rest => (string rest).bind fun (s, rest) => wrong (.text s) rest
  | '[' :: _ => wrong .sequence cs
  | '\x7b' :: _ => wrong .map cs
  | c :: _ =>
    if c == '-' || c.isDigit then (number cs).bind fun (n, rest) => wrong n.kind rest
    else .error (flawNext .valueExpected cs)
  | [] => .error (flawNext .valueExpected [])

/-- A string. -/
def textValue : Scan String := fun cs =>
  match skipGap cs with
  | [] => .error (flawNext .endInValue [])
  | '"' :: rest => string rest
  | rest => wrongKind "a string" rest

/-- A truth value. -/
def boolValue : Scan Bool := fun cs =>
  match skipGap cs with
  | [] => .error (flawNext .endInValue [])
  | 't' :: rest => (name ['r', 'u', 'e'] rest).map fun (_, rest) => (true, rest)
  | 'f' :: rest => (name ['a', 'l', 's', 'e'] rest).map fun (_, rest) => (false, rest)
  | rest => wrongKind "a boolean" rest

/-- The largest signed integer of 64 bits. -/
def integerLimit : Nat := 9223372036854775807

/-- A signed integer of 64 bits. -/
def integerValue : Scan Int := fun cs =>
  match skipGap cs with
  | [] => .error (flawNext .endInValue [])
  | c :: rest =>
    if c == '-' || c.isDigit then
      match number (c :: rest) with
      | .error flaw => .error flaw
      | .ok (.natural n, rest) =>
        if integerLimit < n then .error (flawHere (.outOfRange (.integer n) "i64") rest)
        else .ok (n, rest)
      | .ok (.negative n, rest) => .ok (-(n : Int), rest)
      | .ok (.float x, rest) => .error (flawHere (.wrongKind (.float x) "i64") rest)
    else wrongKind "i64" (c :: rest)

/-! ### Objects -/

/-- The fields of a row found so far. A field that is found twice is a flaw, so that every component
is set once at most. -/
structure Draft where
  userId : Option Int
  queryId : Option Int
  startTime : Option String
  endTime : Option String
  database : Option String
  aborted : Option Bool
  query : Option String
deriving DecidableEq

/-- Nothing is found yet. -/
def Draft.none : Draft := ⟨.none, .none, .none, .none, .none, .none, .none⟩

/-- The value of a field that must be there. -/
def Draft.need {α : Type} (name : String) : Option α → Except Cause α
  | some a => .ok a
  | Option.none => .error (.missingField name)

/-- The row, if no field is missing. The fields are asked for in their order, so that the first
missing one is reported. -/
def Draft.finish (d : Draft) : Except Cause HistoryRow := do
  let userId ← need "user_id" d.userId
  let queryId ← need "query_id" d.queryId
  let startTime ← need "start_time" d.startTime
  let endTime ← need "end_time" d.endTime
  let query ← need "query" d.query
  .ok ⟨userId, queryId, startTime, endTime, d.database.getD "", d.aborted.getD false, query⟩

/-- What follows the end of the object, or of the list, that is being left. -/
def leave (close : Char) (cs : List Char) : List Char :=
  match skipGap cs with
  | [] => []
  | c :: rest => if c == close then rest else c :: rest

/-- The colon after a key. -/
def colon (cs : List Char) : Except Flaw (List Char) :=
  match skipGap cs with
  | ':' :: rest => .ok rest
  | [] => .error (flawNext .endInObject [])
  | rest => .error (flawNext .colonExpected rest)

/-- Reads the value of a field that is not yet known. -/
def field {α : Type} (key : String) (known : Option α) (value : Scan α) (put : α → Draft)
    (cs : List Char) : Except Flaw (Draft × List Char) :=
  if known.isSome then .error (flawHere (.duplicateField key) (leave '\x7d' cs))
  else
    match colon cs with
    | .error flaw => .error flaw
    | .ok rest =>
      match value rest with
      | .error flaw => .error flaw
      | .ok (found, rest) => .ok (put found, rest)

/-- Reads what follows a key. -/
def afterKey (d : Draft) (key : String) (cs : List Char) : Except Flaw (Draft × List Char) :=
  if key == "user_id" then
    field key d.userId integerValue (fun x => { d with userId := some x }) cs
  else if key == "query_id" then
    field key d.queryId integerValue (fun x => { d with queryId := some x }) cs
  else if key == "start_time" then
    field key d.startTime textValue (fun x => { d with startTime := some x }) cs
  else if key == "end_time" then
    field key d.endTime textValue (fun x => { d with endTime := some x }) cs
  else if key == "database" then
    field key d.database textValue (fun x => { d with database := some x }) cs
  else if key == "aborted" then
    field key d.aborted boolValue (fun x => { d with aborted := some x }) cs
  else if key == "query" then
    field key d.query textValue (fun x => { d with query := some x }) cs
  else
    match colon cs with
    | .error flaw => .error flaw
    | .ok rest => (skipValue rest).map fun rest => (d, rest)

/-- The place of the next key, or none at the end of the object. -/
def nextKey? (first : Bool) (cs : List Char) : Except Flaw (Option (List Char)) :=
  match skipGap cs with
  | [] => .error (flawNext .endInObject [])
  | '\x7d' :: _ => .ok none
  | c :: rest =>
    if first then
      if c == '"' then .ok (some rest) else .error (flawNext .keyExpected (c :: rest))
    else if c == ',' then
      match skipGap rest with
      | '"' :: rest => .ok (some rest)
      | '\x7d' :: rest => .error (flawNext .trailingComma ('\x7d' :: rest))
      | [] => .error (flawNext .endInValue [])
      | rest => .error (flawNext .keyExpected rest)
    else .error (flawNext .objectEndExpected (c :: rest))

/-- Reads the fields of an object up to its end, within `fuel` of them. Every field has at least one
character, so that the length of the text is fuel enough. -/
def fields : (fuel : Nat) → (first : Bool) → Draft → Scan HistoryRow
  | 0, _, _, cs => .error (flawNext .endInObject cs)
  | fuel + 1, first, d, cs =>
    match nextKey? first cs with
    | .error flaw => .error flaw
    | .ok none =>
      match d.finish with
      | .error cause => .error (flawHere cause (leave '\x7d' cs))
      | .ok row => .ok (row, leave '\x7d' cs)
    | .ok (some rest) =>
      match string rest with
      | .error flaw => .error flaw
      | .ok (key, rest) =>
        match afterKey d key rest with
        | .error flaw => .error flaw
        | .ok (d, rest) => fields fuel false d rest

/-! ### Lists -/

/-- The place of the next element, or none at the end of the list. -/
def nextElement? (first : Bool) (cs : List Char) : Except Flaw (Option (List Char)) :=
  match skipGap cs with
  | [] => .error (flawNext .endInList [])
  | ']' :: _ => .ok none
  | c :: rest =>
    if first then .ok (some (c :: rest))
    else if c == ',' then
      match skipGap rest with
      | ']' :: rest => .error (flawNext .trailingComma (']' :: rest))
      | [] => .error (flawNext .endInValue [])
      | rest => .ok (some rest)
    else .error (flawNext .listEndExpected (c :: rest))

/-- Reads the element at a position, which may be missing if it has a default. A list that ends
before an element without one has the wrong length. -/
def element {α : Type} (position : Nat) (default : Option α) (value : Scan α) : Scan α := fun cs =>
  match nextElement? (position == 0) cs with
  | .error flaw => .error flaw
  | .ok (some rest) => value rest
  | .ok none =>
    match default with
    | some a => .ok (a, cs)
    | none =>
      .error (flawHere (.wrongLength position "struct QueryHistoryRow with 7 elements")
        (leave ']' cs))

/-- Leaves a list that has no more elements. -/
def endOfList (cs : List Char) : Except Flaw (List Char) :=
  match skipGap cs with
  | ']' :: rest => .ok rest
  | ',' :: rest =>
    match skipGap rest with
    | ']' :: rest => .error (flawNext .trailingComma (']' :: rest))
    | rest => .error (flawNext .trailingCharacters rest)
  | [] => .error (flawNext .endInList [])
  | rest => .error (flawNext .trailingCharacters rest)

/-- Reads the elements of a list. -/
def elements : Scan HistoryRow := fun cs => do
  let (userId, cs) ← element 0 none integerValue cs
  let (queryId, cs) ← element 1 none integerValue cs
  let (startTime, cs) ← element 2 none textValue cs
  let (endTime, cs) ← element 3 none textValue cs
  let (database, cs) ← element 4 (some "") textValue cs
  let (aborted, cs) ← element 5 (some false) boolValue cs
  let (query, cs) ← element 6 none textValue cs
  let cs ← endOfList cs
  .ok (⟨userId, queryId, startTime, endTime, database, aborted, query⟩, cs)

/-! ### Rows -/

/-- A row. -/
def value : Scan HistoryRow := fun cs =>
  match skipGap cs with
  | [] => .error (flawNext .endInValue [])
  | '[' :: rest => elements rest
  | '\x7b' :: rest => fields (rest.length + 1) true .none rest
  | rest => wrongKind "struct QueryHistoryRow" rest

/-- Reads a row from its text, in which nothing else may stand. -/
def read (text : String) : Except Flaw HistoryRow :=
  match value text.toList with
  | .error flaw => .error flaw
  | .ok (row, rest) =>
    match skipGap rest with
    | [] => .ok row
    | rest => .error (flawNext .trailingCharacters rest)

end HistoryRow

end QueryFlow.Log
