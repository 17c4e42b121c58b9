import QueryFlow.Disk.Folder
import QueryFlow.Program
import QueryFlow.Proofs.Disk.Folder
import QueryFlow.Proofs.Text.Utf8
import QueryFlow.Proofs.Toml.Document

/-!
# Settings are read as they were saved

Settings are saved as sections of plain values, with keys that need no quotes and of which none is
there twice. So the text is read as these sections (`Document.read?_write?`), and then every setting
is found under its key. Since sensible settings were saved, they also pass when they are read.

## How the proof goes

Four things lie between settings and the settings that are read: the sections that are written,
their text, its bytes, and the file that the bytes are in. Each is dealt with in a module of its
own, and put together here.

* Sections to settings: `ofTable?_sections` looks every setting up, by `setting?_cons`, among the
  fields that were written. The names of a section differ, so the first field with a name is the
  one.
* Text to sections: the round trip of documents, whose conditions on keys are checked once for the
  sections that settings have (`keyed_sections`).
* Bytes to text: what is encoded is decoded.
* File to bytes: in a folder, a file that was written is read back.

A number has a text only if it fits into 64 bits with its sign, which is what `Fits` asks; the texts
among the settings are not restricted at all.

## Main results

* `exists_text_iff`: settings have a text if their numbers are not too large.
* `ofTable?_sections`: every setting is found in its section.
* `saved_settings_are_read`: **settings that were saved are read back**, from the text, from its
  bytes and from the file that it was written to.
-/

namespace QueryFlow

open Toml

namespace Settings

/-- The numbers of the settings are among those that TOML knows. -/
def Fits (s : Settings) : Prop :=
  ∀ n ∈ [s.source.headerLines, s.analysis.sliceWidth, s.analysis.workers, s.analysis.longest],
    n ≤ 9223372036854775807

instance (s : Settings) : Decidable s.Fits := inferInstanceAs (Decidable (∀ n ∈ _, _))

/-- The keys of all sections can be written without quotes, and none is there twice. -/
theorem keyed_sections (s : Settings) : Keyed s.sections ∧ ∀ t ∈ s.sections, Keyed t.2 := by
  refine ⟨.of_keys ["log", "sqllog", "analysis", "export"] rfl (by decide +kernel), ?_⟩
  simp only [sections, List.forall_mem_cons, List.not_mem_nil, false_imp_iff, implies_true,
    and_true]
  exact ⟨.of_keys journalKeys rfl (by decide +kernel), .of_keys sourceKeys rfl (by decide +kernel),
    .of_keys analysisKeys rfl (by decide +kernel), .of_keys reportKeys rfl (by decide +kernel)⟩

/-- A number is read as itself. -/
@[simp] theorem numberOf?_number (n : Nat) : numberOf? (number n) = some n := by
  simp [numberOf?, number]

/-- A setting is the value of the first field with its key. -/
theorem setting?_cons {α : Type} (ofValue? : Value → Option α) (n name : String) (usual : α)
    (v : Value) (fields : Table) :
    setting? ofValue? name usual ((n, v) :: fields)
      = if name = n then ofValue? v else setting? ofValue? name usual fields := by
  by_cases same : name = n
  · subst same
    simp [setting?]
  · rw [if_neg same]
    simp only [setting?, field?, List.lookup_cons, beq_eq_false_iff_ne.2 same]

/-- **Every setting is found in its section**, so the settings are those that were written. -/
theorem ofTable?_sections (workers : Nat) (s : Settings) :
    ofTable? workers (s.sections.map fun t => (t.1, .table t.2)) = some s := by
  have format : formatOf? (.text s.source.format.name) = some s.source.format :=
    LogFormat.ofName?_name s.source.format
  simp only [sections, List.map_cons, List.map_nil, ofTable?, journalOf?, sourceOf?, analysisOf?,
    reportPathOf?, sectionFields?, setting?_cons, String.reduceEq, if_true, if_false,
    Option.bind_eq_bind, Option.bind_some, truthOf?, textOf?, format, numberOf?_number]
  rfl

/-- **Settings have a text exactly if their numbers are not too large**; nothing else can keep them
from having one. -/
theorem exists_text_iff (s : Settings) : (∃ text, s.text = .ok text) ↔ s.Fits := by
  have written (n : Nat) : (Document.writeValue? (number n)).isSome = true
      ↔ n ≤ 9223372036854775807 := by
    simp only [number, Document.writeValue?, fits, decide_eq_true_eq]
    split <;> simp only [Option.isSome_some, Option.isSome_none, Bool.false_eq_true, true_iff,
      false_iff] <;> omega
  have always (v : Value) (kind : (∃ t, v = .text t) ∨ ∃ b, v = .boolean b) :
      (Document.writeValue? v).isSome = true := by
    rcases kind with ⟨t, rfl⟩ | ⟨b, rfl⟩ <;> rfl
  have all : (∃ text, s.text = .ok text) ↔ (Document.write? s.sections).isSome = true := by
    unfold text
    cases Document.write? s.sections <;> simp
  rw [all, Document.isSome_write?]
  simp only [sections, Fits, List.forall_mem_cons, List.not_mem_nil, false_imp_iff, implies_true,
    and_true, written, always _ (.inl ⟨_, rfl⟩), always _ (.inr ⟨_, rfl⟩), true_and]

/-! ### Saving and reading -/

/-- Sensible settings are read from their text. -/
theorem ofText_of_text (workers : Nat) {s : Settings} (valid : s.validate = .ok ()) {text : String}
    (written : s.text = .ok text) : ofText workers text = .ok s := by
  obtain ⟨keyed, fieldsKeyed⟩ := s.keyed_sections
  have sectionsWritten : Document.write? s.sections = some text := by
    unfold Settings.text at written
    split at written
    · next found => rw [found, Except.ok.inj written]
    · cases written
  have read := Document.read?_write? keyed fieldsKeyed sectionsWritten
  -- stating the equation of this definition would take longer than the proof
  delta ofText
  simp only [read, ofTable?_sections, valid]
  rfl

/-- Bytes are read as the text that they are of. -/
theorem ofBytes_toUTF8 (workers : Nat) (text : String) :
    ofBytes workers text.toUTF8 = ofText workers text := by
  rw [ofBytes, Text.fromUTF8?_eq_some_iff.2 rfl]

/-- Settings that have a text are saved as that, if a file of it can be written. -/
theorem run_writeSettings {s : Settings} {text : String} (written : s.text = .ok text) (f : Folder)
    (path : String) :
    (Program.writeSettings (Folder.files (m := StateM Folder)) s path).run f
      = match f.withFile path text.toUTF8 with
        | .ok f' => (.ok (), f')
        | .error cause => (.error (.io cause), f) := by
  cases made : f.withFile path text.toUTF8
  all_goals
    simp only [Program.writeSettings, written, Folder.files, Folder.change, bind_assoc,
      StateT.run_bind, StateT.run_get, pure_bind, made]
    rfl

/-- What is saved of settings in a folder is their text, at the path that was given. -/
theorem exists_of_writeSettings {s : Settings} {f f' : Folder} {path : String}
    (saved : (Program.writeSettings (Folder.files (m := StateM Folder)) s path).run f
      = (.ok (), f')) :
    ∃ text, s.text = .ok text ∧ f.withFile path text.toUTF8 = .ok f' := by
  cases written : s.text with
  | error fault =>
      unfold Program.writeSettings at saved
      rw [written] at saved
      cases saved
  | ok text =>
      rw [run_writeSettings written] at saved
      refine ⟨text, rfl, ?_⟩
      cases made : f.withFile path text.toUTF8 with
      | error cause =>
          rw [made] at saved
          cases saved
      | ok g =>
          rw [made] at saved
          cases saved
          rfl

/-- **Settings that were saved are read back**, whatever texts are among them: sensible settings
have a text exactly if their numbers are not too large, and the same settings are read from that
text, from its bytes, and from the file of a folder that they were saved in. -/
theorem saved_settings_are_read (workers : Nat) (s : Settings) (valid : s.validate = .ok ()) :
    ((∃ text, s.text = .ok text) ↔ s.Fits)
      ∧ (∀ text, s.text = .ok text →
        ofText workers text = .ok s ∧ ofBytes workers text.toUTF8 = .ok s)
      ∧ ∀ (f f' : Folder) (path : String),
        (Program.writeSettings (Folder.files (m := StateM Folder)) s path).run f = (.ok (), f') →
          (Program.readSettings (Folder.files (m := StateM Folder)) workers path).run f'
            = (.ok s, f') := by
  have readBack (text : String) (written : s.text = .ok text) :
      ofText workers text = .ok s ∧ ofBytes workers text.toUTF8 = .ok s := by
    rw [ofBytes_toUTF8]
    exact ⟨ofText_of_text workers valid written, ofText_of_text workers valid written⟩
  refine ⟨s.exists_text_iff, readBack, fun f f' path saved => ?_⟩
  obtain ⟨text, written, made⟩ := exists_of_writeSettings saved
  have bytes := Folder.bytesAt_of_withFile made
  have read : (Program.readSettings (Folder.files (m := StateM Folder)) workers path).run f'
      = (ofBytes workers text.toUTF8, f') := by
    simp only [Program.readSettings, Folder.files, bind_assoc, StateT.run_bind, StateT.run_get,
      pure_bind, bytes]
    rfl
  rw [read, (readBack text written).2]

/-- Settings with quotes of both kinds, a backslash, ends of lines, control characters and letters
beyond ASCII are saved in a file, and read back on another machine. -/
theorem odd_settings_are_read :
    ∃ (s : Settings) (text : String) (f : Folder),
      s.journal.directory = "a\"b'c\\d\n\te\x00\x7fé日😀" ∧ s.reportPath = "'''\"\"\"\"\n\r\\"
        ∧ s.source.format = .history ∧ s.analysis.longest = 9223372036854775807
        ∧ s.validate = .ok () ∧ s.text = .ok text
        ∧ (Program.writeSettings (Folder.files (m := StateM Folder)) s "config.toml").run .empty
          = (.ok (), f)
        ∧ ofText 8 text = .ok s
        ∧ (Program.readSettings (Folder.files (m := StateM Folder)) 8 "config.toml").run f
          = (.ok s, f) := by
  let s : Settings :=
    { journal := ⟨false, "a\"b'c\\d\n\te\x00\x7fé日😀", "warn"⟩
      source := ⟨0, "postgresql", .history⟩
      analysis := ⟨31622400, 3, 9223372036854775807⟩
      reportPath := "'''\"\"\"\"\n\r\\" }
  have valid : s.validate = .ok () := by
    refine validate_eq_ok_iff.2 ⟨?_, ⟨.postgres, Sql.Dialect.ofName?_name .postgres⟩, ?_, ?_, ?_⟩
    · simp [levels, s]
    all_goals decide
  obtain ⟨fits, fromText, fromFolder⟩ := saved_settings_are_read 8 s valid
  obtain ⟨text, written⟩ := fits.2 (by decide)
  have place : Folder.empty.locate "config.toml" = .ok (["config.toml"], false) := by decide +kernel
  have made : Folder.empty.withFile "config.toml" text.toUTF8
      = .ok (Folder.empty.put ["config.toml"] (.file text.toUTF8)) := by
    simp only [Folder.withFile, place, bind, Except.bind]
    rfl
  have saved :
      (Program.writeSettings (Folder.files (m := StateM Folder)) s "config.toml").run .empty
        = (.ok (), Folder.empty.put ["config.toml"] (.file text.toUTF8)) := by
    rw [run_writeSettings written, made]
  exact ⟨s, text, _, rfl, rfl, rfl, rfl, valid, written, saved, (fromText text written).1,
    fromFolder _ _ _ saved⟩

end Settings

end QueryFlow
