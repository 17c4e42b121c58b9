import QueryFlow.NameSet

/-!
# What a statement does

A statement is classified by contexts, each of which says one thing that it does and to which tables
and places. Contexts do not exclude each other, and a classification keeps them in the order in
which they were found: which predicate found which context can be read off the list, and a later
predicate never changes what an earlier one found.

## Reading and writing

A classification says what the statement reads and writes: tables, and the places outside that rows
are copied from and to. Names and places share one namespace, because a place that one statement
unloads to may be what another one copies from. What is read is the union of `Context.sources` over
the contexts, what is written the union of `Context.targets`. A statement that only reads has
neither: a query alone moves no rows, so `lookup` counts its tables for itself and hands on none.

A statement *moves data* if it fills a table from others, or moves rows from or to a place outside.
An insertion of values moves none, although it names the table that it fills.

## Main statements

* `Classification.mem_sources` and `Classification.mem_targets` say what is read and written,
  context by context. They are what the lemmas about classifiers and graphs use of the two folds.
-/

namespace QueryFlow

/-- Rows are inserted into a table. The source tables are empty if the rows are given as values. -/
structure Insertion where
  /-- The normalized name of the table that is filled. -/
  target : String
  sources : NameSet
deriving DecidableEq

/-- A table is created from a query, and filled with what the query gives. -/
structure Creation where
  /-- The normalized name of the table that is created. -/
  target : String
  sources : NameSet
deriving DecidableEq

/-- The rows of a query are taken to a place outside, whose text is kept as it is written. -/
structure Unloading where
  location : String
  sources : NameSet
deriving DecidableEq

/-- Which way rows are copied, seen from the store. -/
inductive Direction
  /-- From outside into tables. -/
  | inward
  /-- From tables to the outside. -/
  | outward
deriving DecidableEq, Repr

/-- The name of a direction. -/
def Direction.name : Direction → String
  | inward => "import"
  | outward => "export"

/-- Rows are copied from or to a place outside. The direction alone says which of the two sides is
read and which is written. -/
structure Copying where
  direction : Direction
  tables : NameSet
  location : String
deriving DecidableEq

/-- One thing that a statement does, with the tables and places that it concerns. -/
inductive Context
  | maintenance
  | lookup (sources : NameSet)
  | insert (insertion : Insertion)
  | create (creation : Creation)
  | unload (unloading : Unloading)
  | copy (copying : Copying)
deriving DecidableEq

namespace Context

/-- The name of the kind of a context, as a report writes it. -/
def kind : Context → String
  | maintenance => "maintenance"
  | lookup _ => "lookup"
  | insert _ => "insert"
  | create _ => "ctas"
  | unload _ => "unload"
  | copy _ => "copy"

/-- The statement only keeps the store in order. -/
def isMaintenance : Context → Bool
  | maintenance => true
  | _ => false

/-- The statement only reads. -/
def isLookup : Context → Bool
  | lookup _ => true
  | _ => false

/-- The insertion, if the context is one. -/
def insertion? : Context → Option Insertion
  | insert i => some i
  | _ => none

/-- The creation, if the context is one. -/
def creation? : Context → Option Creation
  | create c => some c
  | _ => none

/-- The unloading, if the context is one. -/
def unloading? : Context → Option Unloading
  | unload u => some u
  | _ => none

/-- The copying, if the context is one. -/
def copying? : Context → Option Copying
  | copy c => some c
  | _ => none

/-- What rows are read from, where they are moved. -/
def sources : Context → NameSet
  | maintenance => .empty
  | lookup _ => .empty
  | insert i => i.sources
  | create c => c.sources
  | unload u => u.sources
  | copy ⟨.inward, _, location⟩ => .singleton location
  | copy ⟨.outward, tables, _⟩ => tables

/-- What rows are written to, where they are moved. An insertion of values moves none. -/
def targets : Context → NameSet
  | maintenance => .empty
  | lookup _ => .empty
  | insert i => if i.sources.isEmpty then .empty else .singleton i.target
  | create c => .singleton c.target
  | unload u => .singleton u.location
  | copy ⟨.inward, tables, _⟩ => tables
  | copy ⟨.outward, _, location⟩ => .singleton location

end Context

/-- What a statement does: its contexts in the order in which they were found. -/
structure Classification where
  contexts : List Context
deriving DecidableEq

namespace Classification

/-- The classification of a statement that only keeps the store in order. -/
def maintenance : Classification := ⟨[.maintenance]⟩

/-- The names of the kinds of the contexts, in the order in which they were found. -/
def kinds (c : Classification) : List String := c.contexts.map Context.kind

/-- The statement keeps the store in order. -/
def isMaintenance (c : Classification) : Bool := c.contexts.any Context.isMaintenance

/-- The statement reads. -/
def isLookup (c : Classification) : Bool := c.contexts.any Context.isLookup

/-- The first insertion. -/
def insertion? (c : Classification) : Option Insertion := c.contexts.findSome? Context.insertion?

/-- The first creation. -/
def creation? (c : Classification) : Option Creation := c.contexts.findSome? Context.creation?

/-- The first unloading. -/
def unloading? (c : Classification) : Option Unloading := c.contexts.findSome? Context.unloading?

/-- The first copying. -/
def copying? (c : Classification) : Option Copying := c.contexts.findSome? Context.copying?

/-- Rows of tables are inserted. -/
def insertsRows (c : Classification) : Bool := c.insertion?.any fun i => !i.sources.isEmpty

/-- The statement moves data. -/
def movesData (c : Classification) : Bool :=
  c.insertsRows || c.creation?.isSome || c.unloading?.isSome || c.copying?.isSome

/-- Everything that rows are read from. -/
def sources (c : Classification) : NameSet :=
  c.contexts.foldl (fun s context => s.union context.sources) .empty

/-- Everything that rows are written to. -/
def targets (c : Classification) : NameSet :=
  c.contexts.foldl (fun s context => s.union context.targets) .empty

/-- What a fold of unions gathers from a start set is in the start set or in the set of one of the
contexts. By induction on the contexts, over every start set. -/
theorem mem_foldl_union {f : Context → NameSet} {contexts : List Context} {s : NameSet}
    {name : String} :
    name ∈ contexts.foldl (fun s context => s.union (f context)) s ↔
      name ∈ s ∨ ∃ context ∈ contexts, name ∈ f context := by
  induction contexts generalizing s with
  | nil => simp
  | cons c cs ih => simp [ih, or_assoc]

/-- **What a statement reads is what one of its contexts reads.** -/
theorem mem_sources {c : Classification} {name : String} :
    name ∈ c.sources ↔ ∃ context ∈ c.contexts, name ∈ context.sources := by
  simp [sources, mem_foldl_union]

/-- **What a statement writes is what one of its contexts writes.** -/
theorem mem_targets {c : Classification} {name : String} :
    name ∈ c.targets ↔ ∃ context ∈ c.contexts, name ∈ context.targets := by
  simp [targets, mem_foldl_union]

end Classification

end QueryFlow
