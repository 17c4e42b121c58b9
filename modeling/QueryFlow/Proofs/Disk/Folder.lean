import QueryFlow.Disk.Folder
import QueryFlow.Proofs.Lists

/-!
# Files that are written are read back

A path leads through directories to a place. Writing a file changes nothing but that place, which
was no directory before, so that the path leads to the same place as before, and all other places
hold what they held.

## How the proof goes

Writing and reading walk the same path, but in two different folders, so it must be shown that the
walk has not changed. It could have: a file that replaced a directory on the way would cut the path
off. But a file is only written where no directory stands, and `walk_put` shows by induction on the
parts of the path that every directory that the walk went through is still one. The last part of the
path is not walked through, so it may be the very place that was written.

## Main results

* `at?_put_of_ne`: what is put at a place changes no other one.
* `walk_put`: a path leads where it led, if no directory was replaced.
* `bytesAt_of_withFile`: **a file that was written is read back**.
-/

namespace QueryFlow.Folder

variable {f f' : Folder} {names : List String} {p : Place}

/-- **What is put at a place changes no other one**: only what stood at the place before is taken
away. -/
theorem at?_put_of_ne {other : List String} (different : other ≠ names) :
    (f.put names p).at? other = f.at? other := by
  unfold at? put
  split
  · rfl
  · rw [List.lookup_cons, beq_eq_false_iff_ne.2 different]
    exact lookup_filter_of_ne different f.places

/-- **A path leads where it led** if no directory was replaced. By induction on the parts, of which
each but the last leads through a directory. -/
theorem walk_put (noDirectory : f.at? names ≠ some .directory) {start goal parts : List String}
    (walked : f.walk start parts = .ok goal) : (f.put names p).walk start parts = .ok goal := by
  induction parts generalizing start with
  | nil => exact walked
  | cons part parts ih =>
      rw [walk] at walked
      split at walked
      · cases walked
      · cases walked
      · next directory =>
        have different : start ≠ names := by
          rintro rfl
          exact noDirectory directory
        rw [walk, at?_put_of_ne different, directory]
        exact ih walked

/-- A path still names the place that it named, and still asks for a directory there or not. -/
theorem locate_put (noDirectory : f.at? names ≠ some .directory) {path : String}
    {goal : List String × Bool} (located : f.locate path = .ok goal) :
    (f.put names p).locate path = .ok goal := by
  unfold locate at located ⊢
  dsimp only at located ⊢
  split
  · next empty =>
    rw [if_pos empty] at located
    cases located
  · next filled =>
    rw [if_neg filled] at located
    cases walked : f.walk [] ((Files.segments path).filter fun s => !s.isEmpty) with
    | error cause =>
        rw [walked] at located
        cases located
    | ok names =>
        rw [walked] at located
        rw [walk_put noDirectory walked]
        exact located

/-- What is written is put where no directory was, at the place that the path names, and the path
asks for no directory. -/
theorem exists_of_withFile {path : String} {bytes : ByteArray}
    (written : f.withFile path bytes = .ok f') :
    ∃ names, f.locate path = .ok (names, false) ∧ f.at? names ≠ some .directory
      ∧ f' = f.put names (.file bytes) := by
  cases located : f.locate path with
  | error cause =>
      simp only [withFile, located, bind, Except.bind] at written
      cases written
  | ok goal =>
      obtain ⟨names, mustBeDirectory⟩ := goal
      simp only [withFile, located, bind, Except.bind] at written
      refine ⟨names, ?_⟩
      split at written
      · cases written
      · next found =>
        cases mustBeDirectory with
        | true => cases written
        | false => exact ⟨rfl, by rw [found]; simp, (Except.ok.inj written).symm⟩
      · next missing =>
        cases mustBeDirectory with
        | true => cases written
        | false => exact ⟨rfl, by rw [missing]; simp, (Except.ok.inj written).symm⟩

/-- **A file that was written is read back** by the path that it was written to. -/
theorem bytesAt_of_withFile {path : String} {bytes : ByteArray}
    (written : f.withFile path bytes = .ok f') : f'.bytesAt path = .ok bytes := by
  obtain ⟨names, located, noDirectory, rfl⟩ := exists_of_withFile written
  have named : names ≠ [] := by
    rintro rfl
    exact noDirectory rfl
  simp only [bytesAt, locate_put noDirectory located, bind, Except.bind, at?_put f named]
  rfl

end QueryFlow.Folder
