import QueryFlow.Proofs.Toml.Statement

/-!
# Sections are read as they were written

Sections of plain values are written as a header and an assignment for each field. The reader takes
these lines one by one and builds a tree of them: a header puts an empty table behind those that are
there, and an assignment puts a value behind those of the table that was opened last. So the tree
has the sections in their order, if no two of them, and no two fields of one of them, have the same
key.

## How the proof goes

The proof has the two halves of the reader. For the first one, the text of some sections has the
statements `sectionStatements`, by induction on the fields and then on the sections, with the
results on single lines. For the second one, these statements are run on a tree.

The tree that has been built is a list of branches, the last of which is the open table. What a step
does is said for such a list: `step_header` appends an open table without fields, `step_assign`
appends a value to the fields of the last one. Both need the key to be new, which the distinctness
of the keys gives; it is carried through the inductions as one condition on the keys that are there
and those that are still to come. `run_assignments` and `run_sectionStatements` are these
inductions.

## Main results

* `reads_write?`: the statements of the text of some sections.
* `run_assignments` and `run_sectionStatements`: what the statements build.
* `Document.read?_write?`: **sections are read as they were written.**
-/

namespace QueryFlow.Toml

open Scan Document

/-- The keys of some fields can be written without quotes, and each of them is there once. -/
structure Keyed {α : Type} (fields : List (String × α)) : Prop where
  bare : ∀ f ∈ fields, IsBareKey f.1
  nodup : (fields.map Prod.fst).Nodup

/-- Whether fields are keyed can be told from their keys. -/
theorem Keyed.of_keys {α : Type} {fields : List (String × α)} (keys : List String)
    (same : fields.map Prod.fst = keys) (good : (∀ k ∈ keys, IsBareKey k) ∧ keys.Nodup) :
    Keyed fields := by
  subst same
  exact ⟨fun f member => good.1 f.1 (List.mem_map_of_mem member), good.2⟩

/-! ### The statements of sections -/

/-- The statements that give keys their values. -/
def assignments (fields : Table) : List Statement := fields.map fun f => .assign ⟨[], f.1⟩ f.2

/-- The statements of a section. -/
def sectionStatements (s : String × Table) : List Statement :=
  .table ⟨[], s.1⟩ :: assignments s.2

/-- A line that starts with a key is neither empty nor a comment. -/
theorem IsBareKey.starts {k : String} (bare : IsBareKey k) :
    ∃ c cs, k.toList = c :: cs ∧ isLineBlank c = false ∧ c ≠ '#' ∧ c ≠ '\n' ∧ c ≠ '\r' := by
  obtain ⟨c, cs, text, isKey⟩ := bare.exists_cons
  exact ⟨c, cs, text, isLineBlank_of_isKeyChar isKey, ne_of_isKeyChar isKey (by decide),
    ne_of_isKeyChar isKey (by decide), ne_of_isKeyChar isKey (by decide)⟩

/-- The lines of fields are read as assignments. By induction on the fields, in front of any text
whose statements are known. -/
theorem reads_writeFields? {fields : Table} (bare : ∀ f ∈ fields, IsBareKey f.1) {lines : String}
    (written : writeFields? fields = some lines) {rest : List Char} {ss : List Statement}
    (reads : Reads rest ss) : Reads (lines.toList ++ rest) (assignments fields ++ ss) := by
  induction fields generalizing lines with
  | nil =>
      obtain rfl := Option.some.inj written
      exact reads
  | cons f fields ih =>
      obtain ⟨k, v⟩ := f
      simp only [writeFields?, Option.bind_eq_bind, Option.bind_eq_some_iff, Option.pure_def,
        Option.some.injEq] at written
      obtain ⟨text, value, more, others, rfl⟩ := written
      have here : IsBareKey k := bare (k, v) List.mem_cons_self
      have behind := ih (fun g member => bare g (List.mem_cons_of_mem _ member)) others
      have first := statement_assign here value (more.toList ++ rest)
      obtain ⟨c, cs, name, solid⟩ := here.starts
      have line : (k ++ " = " ++ text ++ "\n" ++ more).toList ++ rest
          = c :: ((cs ++ ' ' :: '=' :: ' ' :: (text.toList ++ ['\n']))
            ++ (more.toList ++ rest)) := by
        simp [name]
      rw [line]
      refine Reads.cons behind solid ?_
      simpa [name] using first

/-- A section is read as its statements. -/
theorem reads_writeSection? {name text : String} {fields : Table} (bare : IsBareKey name)
    (fieldsBare : ∀ f ∈ fields, IsBareKey f.1) (written : writeSection? name fields = some text)
    {rest : List Char} {ss : List Statement} (reads : Reads rest ss) :
    Reads (text.toList ++ rest) (sectionStatements (name, fields) ++ ss) := by
  obtain ⟨lines, fieldsWritten, rfl⟩ := Option.map_eq_some_iff.1 written
  have behind := reads_writeFields? fieldsBare fieldsWritten reads
  have first := statement_header bare (lines.toList ++ rest)
  have text : ("[" ++ name ++ "]\n" ++ lines).toList ++ rest
      = '[' :: ((name.toList ++ [']', '\n']) ++ (lines.toList ++ rest)) := by
    simp
  rw [text]
  refine Reads.cons behind (by decide) ?_
  simpa using first

/-- **The text of sections has their statements**, and the empty lines between them have none. -/
theorem reads_write? {sections : List (String × Table)} (bare : ∀ s ∈ sections, IsBareKey s.1)
    (fieldsBare : ∀ s ∈ sections, ∀ f ∈ s.2, IsBareKey f.1) {text : String}
    (written : write? sections = some text) :
    Reads text.toList (sections.flatMap sectionStatements) := by
  obtain ⟨texts, each, rfl⟩ := Option.map_eq_some_iff.1 written
  clear written
  induction sections generalizing texts with
  | nil =>
      obtain rfl := Option.some.inj each
      exact reads_nil
  | cons s sections ih =>
      obtain ⟨name, fields⟩ := s
      simp only [List.mapM_cons, Option.bind_eq_bind, Option.bind_eq_some_iff, Option.pure_def,
        Option.some.injEq] at each
      obtain ⟨text, here, texts, others, rfl⟩ := each
      have behind := ih (fun s member => bare s (List.mem_cons_of_mem _ member))
        (fun s member => fieldsBare s (List.mem_cons_of_mem _ member)) texts others
      have first {rest : List Char} {ss : List Statement} (reads : Reads rest ss) :
          Reads (text.toList ++ rest) (sectionStatements (name, fields) ++ ss) :=
        reads_writeSection? (bare _ List.mem_cons_self) (fieldsBare _ List.mem_cons_self) here reads
      rw [List.flatMap_cons]
      by_cases last : texts = []
      · subst last
        simpa using first behind
      · rw [String.intercalate_cons_of_ne_nil last, String.toList_append, String.toList_append,
          List.append_assoc]
        exact first behind.newline

/-- Fields have a text if all their values have one. -/
theorem Document.isSome_writeFields? (fields : Table) :
    (writeFields? fields).isSome = true ↔ ∀ f ∈ fields, (writeValue? f.2).isSome = true := by
  induction fields with
  | nil => simp [writeFields?]
  | cons f fields ih =>
      rw [List.forall_mem_cons, ← ih]
      cases value : writeValue? f.2 <;> cases more : writeFields? fields
        <;> simp [writeFields?, value, more]

/-- **Sections have a text if all values in them have one.** -/
theorem Document.isSome_write? (sections : List (String × Table)) :
    (write? sections).isSome = true
      ↔ ∀ s ∈ sections, ∀ f ∈ s.2, (writeValue? f.2).isSome = true := by
  rw [write?, Option.isSome_map]
  induction sections with
  | nil => simp
  | cons s sections ih =>
      rw [List.forall_mem_cons, ← ih, ← isSome_writeFields?, List.mapM_cons]
      cases here : writeFields? s.2
        <;> cases sections.mapM fun (name, fields) => writeSection? name fields
        <;> simp [writeSection?, here]

/-- If the text of sections starts with something, that is a header. -/
theorem eq_of_head_write? {sections : List (String × Table)} {text : String}
    (written : write? sections = some text) : ∀ c, text.toList.head? = some c → c = '[' := by
  obtain ⟨texts, each, rfl⟩ := Option.map_eq_some_iff.1 written
  cases sections with
  | nil =>
      obtain rfl := Option.some.inj each
      rintro c ⟨⟩
  | cons s sections =>
      simp only [List.mapM_cons, Option.bind_eq_bind, Option.bind_eq_some_iff, Option.pure_def,
        Option.some.injEq] at each
      obtain ⟨text, here, texts, -, rfl⟩ := each
      obtain ⟨lines, -, rfl⟩ := Option.map_eq_some_iff.1 here
      cases texts with
      | nil => simp [eq_comm]
      | cons t texts => simp [String.intercalate_cons_cons, eq_comm]

/-! ### What the statements build -/

/-- The branches of a table of plain values. -/
def leaves (fields : Table) : Branches := fields.map fun f => (f.1, .value f.2)

/-- The branch of a section. -/
def sectionBranch (s : String × Table) : String × Tree := (s.1, .table .opened (leaves s.2))

/-- The branches of a table of plain values have these values. -/
theorem fieldValues_leaves (fields : Table) : Tree.fieldValues (leaves fields) = fields := by
  induction fields with
  | nil => rfl
  | cons f fields ih =>
      change (f.1, f.2) :: Tree.fieldValues (leaves fields) = f :: fields
      rw [ih]

/-- The branches of sections have the values that the sections have. -/
theorem fieldValues_sectionBranch (sections : List (String × Table)) :
    Tree.fieldValues (sections.map sectionBranch) = sections.map fun s => (s.1, .table s.2) := by
  induction sections with
  | nil => rfl
  | cons s sections ih =>
      change (s.1, Value.table (Tree.fieldValues (leaves s.2)))
        :: Tree.fieldValues (sections.map sectionBranch) = _
      rw [fieldValues_leaves, ih]
      rfl

namespace Building

section Steps

variable {before inner : Branches} {name : String}

/-- A key that is not there is not found. -/
theorem lookup_of_absent (absent : name ∉ before.map Prod.fst) : before.lookup name = none := by
  refine List.lookup_eq_none_iff.2 fun branch member => ?_
  have different : name ≠ branch.1 := by
    rintro rfl
    exact absent (List.mem_map_of_mem member)
  simp [different]

variable (absent : name ∉ before.map Prod.fst)

include absent

/-- What was put last is found if its key was not there before. -/
theorem lookup_last (t : Tree) : (before ++ [(name, t)]).lookup name = some t := by
  simp [List.lookup_append, lookup_of_absent absent]

/-- What was put last is replaced if its key was not there before. -/
theorem put_last (t u : Tree) :
    Tree.put name u (before ++ [(name, t)]) = before ++ [(name, u)] := by
  induction before with
  | nil => simp [Tree.put]
  | cons branch before ih =>
      obtain ⟨k, v⟩ := branch
      simp only [List.map_cons, List.mem_cons, not_or] at absent
      have different : k ≠ name := fun same => absent.1 same.symm
      simp [Tree.put, different, ih absent.2]

/-- A header puts an empty table behind those that are there. -/
theorem step_header (current : List String) :
    step ⟨before, current⟩ (.table ⟨[], name⟩)
      = some ⟨before ++ [(name, .table .opened [])], [name]⟩ := by
  simp [step, Tree.open?, Tree.along, lookup_of_absent absent]

/-- An assignment puts a value behind those of the table that was opened last. -/
theorem step_assign {k : String} (new : k ∉ inner.map Prod.fst) (v : Value) :
    step ⟨before ++ [(name, .table .opened inner)], [name]⟩ (.assign ⟨[], k⟩ v)
      = some ⟨before ++ [(name, .table .opened (inner ++ [(k, .value v)]))], [name]⟩ := by
  have assigned := Tree.assign?_new (v := v) (lookup_of_absent new)
  simp [step, Tree.inside, Tree.along, lookup_last absent, put_last absent, assigned]

/-- **Assignments put their values behind each other**, if no two of them have the same key. -/
theorem run_assignments {fields : Table}
    (nodup : (inner.map Prod.fst ++ fields.map Prod.fst).Nodup) :
    run ⟨before ++ [(name, .table .opened inner)], [name]⟩ (assignments fields)
      = some ⟨before ++ [(name, .table .opened (inner ++ leaves fields))], [name]⟩ := by
  induction fields generalizing inner with
  | nil => simp [assignments, leaves, run]
  | cons f fields ih =>
      have new : f.1 ∉ inner.map Prod.fst := by
        intro there
        exact (List.nodup_append.1 nodup).2.2 _ there _ List.mem_cons_self rfl
      have others : ((inner ++ [(f.1, Tree.value f.2)]).map Prod.fst
          ++ fields.map Prod.fst).Nodup := by
        simpa using nodup
      have more := ih others
      simp only [assignments, List.map_cons, run, step_assign absent new, Option.bind_some]
      simpa [assignments, leaves] using more

end Steps

/-- **Sections are put behind each other** as they are read, if no two of them, and no two fields of
one, have the same key. -/
theorem run_sectionStatements {sections : List (String × Table)} {before : Branches}
    (nodup : (before.map Prod.fst ++ sections.map Prod.fst).Nodup)
    (fieldsNodup : ∀ s ∈ sections, (s.2.map Prod.fst).Nodup) (current : List String) :
    ∃ current', run ⟨before, current⟩ (sections.flatMap sectionStatements)
      = some ⟨before ++ sections.map sectionBranch, current'⟩ := by
  induction sections generalizing before current with
  | nil => exact ⟨current, by simp [run]⟩
  | cons s sections ih =>
      have absent : s.1 ∉ before.map Prod.fst := by
        intro there
        exact (List.nodup_append.1 nodup).2.2 _ there _ List.mem_cons_self rfl
      have own : ((([] : Branches).map Prod.fst) ++ s.2.map Prod.fst).Nodup :=
        fieldsNodup s List.mem_cons_self
      have filled := run_assignments absent own
      have others : ((before ++ [sectionBranch s]).map Prod.fst
          ++ sections.map Prod.fst).Nodup := by
        simpa [sectionBranch] using nodup
      obtain ⟨current', more⟩ := ih others
        (fun t member => fieldsNodup t (List.mem_cons_of_mem _ member)) [s.1]
      refine ⟨current', ?_⟩
      rw [List.flatMap_cons, run_append, sectionStatements, run, step_header absent,
        Option.bind_some, filled, Option.bind_some]
      simpa [sectionBranch] using more

end Building

namespace Document

/-- **Sections of plain values are read as they were written**, if their keys need no quotes and no
key is there twice. -/
theorem read?_write? {sections : List (String × Table)} (keyed : Keyed sections)
    (fieldsKeyed : ∀ s ∈ sections, Keyed s.2) {text : String}
    (written : write? sections = some text) :
    read? text = some (sections.map fun s => (s.1, .table s.2)) := by
  have reads := reads_write? keyed.bare (fun s member => (fieldsKeyed s member).bare) written
  have apart : ((([] : Branches).map Prod.fst) ++ sections.map Prod.fst).Nodup := keyed.nodup
  obtain ⟨current, built⟩ := Building.run_sectionStatements apart
    (fun s member => (fieldsKeyed s member).nodup) []
  have found : statements text = some (sections.flatMap sectionStatements) := by
    refine statements_of_reads reads fun mark => ?_
    exact absurd (eq_of_head_write? written _ mark) (by decide)
  simp [read?, found, built, fieldValues_sectionBranch]

end Document

end QueryFlow.Toml
