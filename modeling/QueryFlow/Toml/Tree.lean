import QueryFlow.Toml.Value

/-!
# Tables that are being built

The statements of a text build a tree of tables. A table may come into being because a path leads
through it, or because it is opened; a table that a path of an assignment leads through can only be
extended by further assignments, and a table can be opened only once. Which of these made a table is
kept with it until the tree is complete.

* `assign?` — gives a key a value;
* `open?` — opens a table, and `list?` a further one of a list of tables;
* `fieldValues` — the values of a complete tree.

## One walk for all statements

All three go along a path to some branches and change them there, so they are one function, `along`,
with the change and the origin of missing tables as parameters. The walk goes into the last table of
a list of tables, stops at a value, and does not go by an assignment into a table that was opened.
The change is told how the table that it is made in came into being, which is what assignments ask.

## Main statement

* `assign?_new`: a key that is not there yet is put behind the others.
-/

namespace QueryFlow.Toml

/-- A path of keys: the tables that it leads through, and the key that it names. -/
structure Path where
  through : List String
  last : String
deriving DecidableEq, Repr

/-- How a table came into being. It decides what may still be done to the table. -/
inductive Origin
  /-- It was opened. -/
  | opened
  /-- The path of another table led through it. -/
  | passed
  /-- The path of an assignment led through it. -/
  | dotted
deriving DecidableEq, Repr

/-- What stands under a key. -/
inductive Tree
  | value (v : Value)
  | table (origin : Origin) (fields : List (String × Tree))
  /-- A list of tables that were opened one after the other. -/
  | tables (items : List (List (String × Tree)))

/-- What stands under the keys of a table. -/
abbrev Branches := List (String × Tree)

namespace Tree

/-- Puts something under a key, in place of what stands there. -/
def put (name : String) (t : Tree) : Branches → Branches
  | [] => [(name, t)]
  | (n, u) :: rest => if n = name then (n, t) :: rest else (n, u) :: put name t rest

/-- Changes the table that a path leads to from some branches. Tables that are missing on the way
come into being with the origin `origin`. The change is told how the table came into being. -/
def along (origin : Origin) (change : Origin → Branches → Option Branches) :
    List String → Origin → Branches → Option Branches
  | [], o, fields => change o fields
  | name :: names, _, fields =>
    match fields.lookup name with
    | none =>
      (along origin change names origin []).map fun inner =>
        put name (.table origin inner) fields
    | some (.value _) => none
    | some (.table o inner) =>
      if origin = .dotted ∧ o = .opened then none
      else (along origin change names o inner).map fun inner =>
        put name (.table o inner) fields
    | some (.tables items) =>
      match items.getLast? with
      | none => none
      | some inner =>
        (along origin change names .opened inner).map fun inner =>
          put name (.tables (items.dropLast ++ [inner])) fields

/-- Gives a key a value. A table is extended by keys without points if it was opened, and by the
paths that lead through it if they made it. -/
def assign? (p : Path) (v : Value) (fields : Branches) : Option Branches :=
  along .dotted (fun origin fields =>
    if decide (origin = .dotted) == p.through.isEmpty then none
    else if (fields.lookup p.last).isSome then none
    else some (fields ++ [(p.last, .value v)])) p.through .opened fields

/-- Opens a table, which stays as it is if paths of other tables led through it. -/
def open? (p : Path) (fields : Branches) : Option Branches :=
  along .passed (fun _ fields =>
    match fields.lookup p.last with
    | none => some (fields ++ [(p.last, .table .opened [])])
    | some (.table .passed inner) => some (put p.last (.table .opened inner) fields)
    | some _ => none) p.through .opened fields

/-- Opens a further table of a list of tables. -/
def list? (p : Path) (fields : Branches) : Option Branches :=
  along .passed (fun _ fields =>
    match fields.lookup p.last with
    | none => some (fields ++ [(p.last, .tables [[]])])
    | some (.tables items) => some (put p.last (.tables (items ++ [[]])) fields)
    | some _ => none) p.through .opened fields

/-- Changes the table that was opened last. It is there already, so nothing comes into being on the
way. -/
def inside (change : Branches → Option Branches) (p : List String) (fields : Branches) :
    Option Branches :=
  along .passed (fun _ fields => change fields) p .opened fields

/-- The branches that some assignments make. -/
def ofPairs? (pairs : List (Path × Value)) : Option Branches :=
  pairs.foldlM (fun fields (p, v) => assign? p v fields) []

mutual

/-- The value of what stands under a key. -/
def toValue : Tree → Value
  | .value v => v
  | .table _ fields => .table (fieldValues fields)
  | .tables items => .list (itemValues items)

/-- The values of some branches. -/
def fieldValues : Branches → Table
  | [] => []
  | (name, t) :: rest => (name, t.toValue) :: fieldValues rest

/-- The values of a list of tables. -/
def itemValues : List Branches → List Value
  | [] => []
  | fields :: rest => .table (fieldValues fields) :: itemValues rest

end

/-- **A key that is not there yet is put behind the others.** -/
theorem assign?_new {name : String} {v : Value} {fields : Branches}
    (new : fields.lookup name = none) :
    assign? ⟨[], name⟩ v fields = some (fields ++ [(name, .value v)]) := by
  simp [assign?, along, new]

end Tree

end QueryFlow.Toml
