import QueryFlow.Toml.Statement

/-!
# Reading and writing TOML

`Document.read?` reads a text as a table. `Document.write?` writes sections: tables of texts,
numbers and truth values, each under its header and with an empty line between them.

## Reading

A text is first read as its statements, and these then build a tree. `Building` is what has been
built, together with the path of the table that was opened last, because an assignment goes into
that table: it is kept as a path and walked again for every assignment, so that a table of a list of
tables is always the last one. A statement that does not fit ends the reading.

## Writing

Only plain values have a text, and a number only if it fits into 64 bits with its sign. Keys are
written as they are, which is right for keys that need no quotes. That what is written is read back,
under this condition, is proved in `Proofs.Toml.Document`.

## Main statement

* `run_append`: a text is read statement by statement.
-/

namespace QueryFlow.Toml

/-- The tree that has been built, and the path of the open table. -/
structure Building where
  fields : Branches
  current : List String

namespace Building

/-- Takes a statement into account, if it fits what has been built. -/
def step (b : Building) : Statement → Option Building
  | .table p => (Tree.open? p b.fields).map fun fields => ⟨fields, p.through ++ [p.last]⟩
  | .listed p => (Tree.list? p b.fields).map fun fields => ⟨fields, p.through ++ [p.last]⟩
  | .assign p v =>
    (Tree.inside (Tree.assign? p v) b.current b.fields).map fun fields => { b with fields }

/-- Takes statements into account. -/
def run (b : Building) : List Statement → Option Building
  | [] => some b
  | s :: rest => (b.step s).bind fun b => b.run rest

/-- **A text is read statement by statement**, so what the first of them build is where the others
start. -/
theorem run_append (b : Building) (first rest : List Statement) :
    b.run (first ++ rest) = (b.run first).bind fun b => b.run rest := by
  induction first generalizing b with
  | nil => rfl
  | cons s first ih =>
    simp only [List.cons_append, run]
    cases b.step s with
    | none => rfl
    | some b => exact ih b

end Building

namespace Document

/-- Reads a text as a table. -/
def read? (text : String) : Option Table := do
  let ss ← statements text
  let b ← Building.run ⟨[], []⟩ ss
  return Tree.fieldValues b.fields

/-- The text of a plain value. Whole numbers fit into 64 bits with their sign; other values than
texts, whole numbers and truth values have no text. -/
def writeValue? : Value → Option String
  | .text s => some (Text.write s)
  | .integer n => if fits n then some (Decimal.intText n) else none
  | .boolean b => some (if b then "true" else "false")
  | _ => none

/-- The lines of a section. -/
def writeFields? : Table → Option String
  | [] => some ""
  | (name, v) :: rest => do
    let first ← writeValue? v
    return name ++ " = " ++ first ++ "\n" ++ (← writeFields? rest)

/-- A section under its header. -/
def writeSection? (name : String) (fields : Table) : Option String :=
  (writeFields? fields).map fun lines => "[" ++ name ++ "]\n" ++ lines

/-- Sections with an empty line between them. -/
def write? (sections : List (String × Table)) : Option String :=
  (sections.mapM fun (name, fields) => writeSection? name fields).map (String.intercalate "\n")

end Document

end QueryFlow.Toml
