import QueryFlow.Fault
import QueryFlow.Intent.Predicate
import QueryFlow.Intent.Recognition
import QueryFlow.Sql.Reader

/-!
# Classification of statements

A *classifier* has a reader of statements and a list of predicates. The reader is a function of a
text, so what is proved about a classifier holds of every dialect, and of a reader that has nothing
to do with SQL. The predicates are asked in their order, and each adds at most one context.

* `Classifier.forDialect` reads a dialect and asks the standard predicates;
* `Classifier.register` asks one more predicate, after all others;
* `Classifier.classify` classifies a text.

## Texts before statements

A text is trimmed first. What is recognised by its text is not given to the reader: what the engine
does to keep its store in order is classified at once, and so is a copy into a table. Of an
unloading the quoted query is read, and must be a query. Any other text is read as it is, and its
first statement counts: every predicate is asked about it. A text without a statement is refused.

## Main statement

* `classifyStatement_register`: one more predicate adds at most one context, at the end. Everything
  that is proved about registration is proved from this equation.
-/

namespace QueryFlow.Intent

open QueryFlow.Sql QueryFlow.Text

/-- What classifies the texts of statements. -/
structure Classifier where
  /-- Reads a text as statements, or says why it has none. -/
  read : String → Except Fault (List Statement)
  /-- What is asked about the first statement of a text, in this order. -/
  predicates : List Predicate

/-- The dialect of a name, unless no dialect has it. -/
def dialectNamed (name : String) : Except Fault Dialect :=
  match Dialect.ofName? name with
  | some d => .ok d
  | none => .error (.settings (.unknownDialect name))

namespace Classifier

/-- The classifier that asks the standard predicates about what a reader reads. -/
def withReader (read : String → Except Fault (List Statement)) : Classifier :=
  ⟨read, Predicate.standard⟩

/-- The classifier of the dialect of a name. -/
def forDialect (name : String) : Except Fault Classifier :=
  (dialectNamed name).map fun d => withReader (readStatements d)

/-- Asks one more predicate, after all others. -/
def register (c : Classifier) (p : Predicate) : Classifier :=
  { c with predicates := c.predicates ++ [p] }

/-- The names of the predicates, in the order in which they are asked. -/
def predicateNames (c : Classifier) : List String := c.predicates.map Predicate.name

/-- The contexts that the predicates find in a statement. -/
def classifyStatement (c : Classifier) (s : Statement) : Classification :=
  ⟨c.predicates.filterMap (Predicate.find? · s)⟩

/-- Classifies an unloading by its query and its place. The quoted text must read as a query: its
tables are what the unloading reads. -/
def classifyUnload (c : Classifier) (query location : String) : Except Fault Classification := do
  match (← c.read query).head? with
  | some (.query inner) => return ⟨[.unload ⟨location, inner.sources⟩]⟩
  | _ => throw (.sqlSyntax (.notAQuery query) 0 0)

/-- Classifies a text by its first statement. -/
def classifyParsed (c : Classifier) (text : String) : Except Fault Classification := do
  match (← c.read text).head? with
  | some statement => return c.classifyStatement statement
  | none => throw (.sqlSyntax .noStatement 0 0)

/-- Classifies a text that is trimmed. What is recognised by its text comes first, in the order
maintenance, copy, unloading. -/
def classifyTrimmed (c : Classifier) (text : String) : Except Fault Classification :=
  if isMaintenanceText text then
    .ok .maintenance
  else
    match warehouseCopy? text with
    | some copy => .ok ⟨[.copy copy]⟩
    | none =>
      match warehouseUnload? text with
      | some (query, location) => c.classifyUnload query location
      | none => c.classifyParsed text

/-- Classifies the text of a statement, whatever white space stands around it. -/
def classify (c : Classifier) (text : String) : Except Fault Classification :=
  c.classifyTrimmed (trim text)

/-- **One more predicate adds at most one context, at the end.** -/
theorem classifyStatement_register (c : Classifier) (p : Predicate) (s : Statement) :
    ((c.register p).classifyStatement s).contexts
      = (c.classifyStatement s).contexts ++ (p.find? s).toList := by
  cases h : p.find? s <;> simp [classifyStatement, register, List.filterMap_append, h]

end Classifier

end QueryFlow.Intent
