import QueryFlow.Disk.Files
import QueryFlow.NameSet

/-!
# A folder as a value

A folder with all that is in it, as a value that can be read and changed without a disk. Paths start
in the folder, and there is nothing above it.

## Places

A folder has a table of places, each of which is named by the parts of its path from the folder on,
and holds a directory or the bytes of a file. A path is walked part by part, and every part but the
last must lead through a directory; a point stays where it is, and two points go up, though never
above the folder. A path that ends in a slash or in points asks for a directory and is refused if a
file stands there.

`Folder.files` answers the requests of a program from a folder, in any monad with such a state. A
request that is refused leaves the folder as it was.

## Main statement

* `at?_put`: what is put at a place stands there. That nothing else changes, and that a file that
  was written is read back by the path it was written to, is proved in `Proofs.Disk.Folder`.
-/

namespace QueryFlow

/-- What a place in a folder holds. -/
inductive Place
  | directory
  | file (bytes : ByteArray)

/-- A folder: what stands at its places, each of which is named by the parts of its path. -/
structure Folder where
  places : List (List String × Place)

namespace Folder

/-- The folder in which nothing is. -/
def empty : Folder := ⟨[]⟩

/-- What stands at a place. The folder itself is a directory. -/
def at? (f : Folder) (names : List String) : Option Place :=
  if names.isEmpty then some .directory else f.places.lookup names

/-- Puts something at a place. -/
def put (f : Folder) (names : List String) (p : Place) : Folder :=
  ⟨(names, p) :: f.places.filter fun (other, _) => other != names⟩

/-- The place that further parts of a path lead to. All parts but the last lead through directories,
and nothing leads above the folder. -/
def walk (f : Folder) (names : List String) : List String → Except IoFault (List String)
  | [] => .ok names
  | part :: rest =>
    match f.at? names with
    | none => .error .notFound
    | some (.file _) => .error .notDirectory
    | some .directory =>
      f.walk (if part = "." then names else if part = ".." then names.dropLast
        else names ++ [part]) rest

/-- The place that a path names, and whether only a directory can stand there. -/
def locate (f : Folder) (path : String) : Except IoFault (List String × Bool) :=
  let named := (Files.segments path).filter fun s => !s.isEmpty
  if path.isEmpty then .error .notFound
  else
    (f.walk [] named).map fun names =>
      (names, path.endsWith "/" || named.getLast? == some "." || named.getLast? == some "..")

/-- The bytes of the file that a path names. -/
def bytesAt (f : Folder) (path : String) : Except IoFault ByteArray := do
  let (names, mustBeDirectory) ← f.locate path
  match f.at? names with
  | none => throw .notFound
  | some .directory => throw .isDirectory
  | some (.file bytes) => if mustBeDirectory then throw .notDirectory else return bytes

/-- The folder with a file of these bytes. -/
def withFile (f : Folder) (path : String) (bytes : ByteArray) : Except IoFault Folder := do
  let (names, mustBeDirectory) ← f.locate path
  match f.at? names with
  | some .directory => throw .isDirectory
  | some (.file _) =>
    if mustBeDirectory then throw .notDirectory else return f.put names (.file bytes)
  | none => if mustBeDirectory then throw .isDirectory else return f.put names (.file bytes)

/-- The folder with one more directory. -/
def withDirectory (f : Folder) (path : String) : Except IoFault Folder := do
  let (names, _) ← f.locate path
  if (f.at? names).isSome then throw .taken
  return f.put names .directory

/-- What a path names. -/
def place? (f : Folder) (path : String) : Option Place :=
  match f.locate path with
  | .error _ => none
  | .ok (names, mustBeDirectory) =>
    match f.at? names with
    | some (.file bytes) => if mustBeDirectory then none else some (.file bytes)
    | found => found

/-- The names of what is directly in the folder. -/
def names (f : Folder) : NameSet := .ofList (f.places.filterMap fun (names, _) => names.head?)

/-- Changes the folder, unless that is refused: then the folder stays as it was. -/
def change {m : Type → Type} [Monad m] [MonadStateOf Folder m]
    (step : Folder → Except IoFault Folder) : m (Except IoFault Unit) := do
  match step (← get) with
  | .ok f =>
    set f
    return .ok ()
  | .error cause => return .error cause

/-- Answers the requests of a program from a folder. -/
def files {m : Type → Type} [Monad m] [MonadStateOf Folder m] : Files m where
  read path := do return (← get).bytesAt path
  write path text := change fun f => f.withFile path text.toUTF8
  makeDirectory path := change fun f => f.withDirectory path
  isDirectory path := do return (← get).place? path matches some .directory
  isThere path := do return ((← get).place? path).isSome

/-- What is put at a place stands there. -/
theorem at?_put (f : Folder) {names : List String} (named : names ≠ []) (p : Place) :
    (f.put names p).at? names = some p := by
  simp [at?, put, named]

end Folder

end QueryFlow
