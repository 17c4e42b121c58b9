import QueryFlow.Fault

/-!
# Files

What the program needs of a disk, as a record of requests that run in some monad. Every request is
answered or refused, and a refusal says why. A program is written against the record and can be run
on a disk, and on a folder that is a value, as `Disk.Folder` gives one.

## Paths

A path names its parts with slashes between them. `segments` takes it apart at every slash and
`parts` leaves out those that do not count: empty ones, and points, apart from one at the start of a
path that is not rooted. `parent?` is the path of the directory that a path stands in.

## Missing directories

`makeDirectories` makes a directory with all those above it. It asks for the directory itself first,
since that is mostly enough, and goes up one level only if something above is missing; on the way
back it asks again for each. A directory that is there already is no fault, and so a request that is
refused is looked at again: another program may have made the directory meanwhile. The number of
levels is bounded by the number of parts, and the recursion is on this bound.
-/

namespace QueryFlow

/-- The requests to a disk. Each of them is answered or refused, with the reason for the refusal. -/
structure Files (m : Type → Type) where
  /-- All bytes of a file. -/
  read : String → m (Except IoFault ByteArray)
  /-- Makes a file of a text, in place of one that is there. -/
  write : String → String → m (Except IoFault Unit)
  /-- Makes a directory in one that is there. -/
  makeDirectory : String → m (Except IoFault Unit)
  /-- The path names a directory. -/
  isDirectory : String → m Bool
  /-- The path names something. -/
  isThere : String → m Bool

namespace Files

/-- The text between the slashes of a path, from left to right. -/
def segments (path : String) : List String :=
  go [] path.toList
where
  /-- The segments of the rest of a path, where `part` has been read of the first one, backwards. -/
  go (part : List Char) : List Char → List String
    | [] => [String.ofList part.reverse]
    | c :: rest =>
      if c = '/' then String.ofList part.reverse :: go [] rest else go (c :: part) rest

/-- The path starts at the root of the disk. -/
def isRooted (path : String) : Bool := path.toList.head? == some '/'

/-- The parts of a path. Empty parts do not count, nor do points other than a first one. -/
def parts (path : String) : List String :=
  let named := (segments path).filter fun s => !s.isEmpty
  match named with
  | [] => []
  | first :: rest =>
    let rest := rest.filter fun s => s != "."
    if isRooted path && first == "." then rest else first :: rest

/-- The path of the directory that a path stands in. It is empty for a path of one part, and a path
without parts has none. -/
def parent? (path : String) : Option String :=
  match parts path with
  | [] => none
  | names =>
    some ((if isRooted path then "/" else "") ++ String.intercalate "/" names.dropLast)

variable {m : Type → Type} [Monad m]

/-- Makes a directory, and at most `n` of those above it. A request that is refused is no fault if
the directory is there in the end. -/
def makeDirectoriesUpTo (files : Files m) : Nat → String → m (Except IoFault Unit)
  | 0, _ => return .ok ()
  | n + 1, path =>
    if path.isEmpty then return .ok ()
    else do
      match ← files.makeDirectory path with
      | .ok () => return .ok ()
      | .error .notFound =>
        match parent? path with
        | none => return .error (.refused "failed to create whole tree")
        | some above =>
          match ← files.makeDirectoriesUpTo n above with
          | .error cause => return .error cause
          | .ok () =>
            match ← files.makeDirectory path with
            | .ok () => return .ok ()
            | .error cause =>
              if ← files.isDirectory path then return .ok () else return .error cause
      | .error cause =>
        if ← files.isDirectory path then return .ok () else return .error cause

/-- Makes a directory, with all those above it that are missing. -/
def makeDirectories (files : Files m) (path : String) : m (Except IoFault Unit) :=
  files.makeDirectoriesUpTo ((parts path).length + 1) path

/-- Makes a file of a text, with the directories above it that are missing. Nothing is written if
these cannot be made. -/
def writeInto (files : Files m) (path text : String) : m (Except IoFault Unit) := do
  match ← files.makeDirectories ((parent? path).getD "") with
  | .error cause => return .error cause
  | .ok () => files.write path text

end Files

end QueryFlow
