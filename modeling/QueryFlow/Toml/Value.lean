/-!
# TOML values

The values of a TOML text. Of a floating point number and of a date only the fact is kept that there
is one: no setting takes either, and a reader that has checked their form has done all that is
asked. A table is a list of its keys with their values, in the order of the text, with each key
once; that no key comes twice is seen to when tables are built, in `Toml.Tree`.
-/

namespace QueryFlow.Toml

/-- A value, with what a setting could ask of it. -/
inductive Value
  | text (s : String)
  | integer (n : Int)
  | float
  | boolean (b : Bool)
  | date
  | list (items : List Value)
  | table (fields : List (String × Value))

/-- A table: its keys with their values, each key once. -/
abbrev Table := List (String × Value)

/-- The value of a key. -/
def field? (name : String) (fields : Table) : Option Value := fields.lookup name

/-- The first field is found under its key. -/
@[simp] theorem field?_cons_self (name : String) (v : Value) (fields : Table) :
    field? name ((name, v) :: fields) = some v := by
  simp [field?]

end QueryFlow.Toml
