import QueryFlow.Program

/-!
# Running the program

The disk and the console of the machine, for the program to talk to. The program is written for any
disk and any console, so this is the only module in which something is done: each request is
answered by one action, and a refusal of the machine becomes a refusal of the request.

A text that was wished for goes to the standard output, and what ended the program early goes to the
standard error output.
-/

namespace QueryFlow

/-- A refusal of the machine. -/
def IoFault.ofError : IO.Error → IoFault
  | .noFileOrDirectory .. => .notFound
  | .noSuchThing .. => .notFound
  | .alreadyExists .. => .taken
  | .inappropriateType _ code _ => if code = 20 then .notDirectory else .isDirectory
  | e => .refused (toString e)

/-- An action whose refusal is an answer. -/
def answered {α : Type} (action : IO α) : IO (Except IoFault α) := do
  try
    return .ok (← action)
  catch e =>
    return .error (IoFault.ofError e)

/-- An action can be done. -/
def succeeds {α : Type} (action : IO α) : IO Bool := do
  return (← answered action).toOption.isSome

/-- The disk of the machine. -/
def machineFiles : Files IO where
  read path := answered (IO.FS.readBinFile path)
  write path text := answered (IO.FS.writeFile path text)
  makeDirectory path := answered (IO.FS.createDir path)
  isDirectory path := succeeds (IO.FS.Handle.mk (path ++ "/.") .read)
  isThere path := succeeds (IO.FS.Handle.mk path .read)

/-- The console of the machine, for a program that started at a time. -/
def machineConsole (start : Nat) : Console IO where
  say line := do (← IO.getStdout).putStrLn line
  elapsed := do return Program.elapsedText ((← IO.monoNanosNow) - start)

/-- Runs the program on the machine. -/
def runOnMachine (words : List String) : IO UInt32 := do
  let start ← IO.monoNanosNow
  let ending ← Program.run machineFiles (machineConsole start) words
  match ending with
  | .done => pure ()
  | .failed failure => (← IO.getStderr).putStr failure.text
  | .usage u =>
    if u.isWish then (← IO.getStdout).putStr u.message else (← IO.getStderr).putStr u.message
  return UInt32.ofNat ending.code

end QueryFlow

/-- The program. -/
def main (words : List String) : IO UInt32 := QueryFlow.runOnMachine words
