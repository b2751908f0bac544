import Platen.Command.Run

/-!
# The command line

Connects the commands with the files of the system and with the standard streams.
-/

namespace Platen.Command

/-- The file error behind an error of the system. -/
def fileError (e : IO.Error) : FileError :=
  match e with
  | .noFileOrDirectory .. => .notFound
  | .alreadyExists .. => .alreadyExists
  | e => .other e.toString

/-- The result of a file operation of the system. -/
def caught {α : Type} (action : IO α) : IO (Except FileError α) := do
  match ← action.toBaseIO with
  | .ok a => return .ok a
  | .error e => return .error (fileError e)

/-- The files of the system. -/
def systemFiles : FileStore IO where
  read path := caught (IO.FS.readFile path)
  write path content := caught (IO.FS.writeFile path content)
  makeDirectories path := caught (IO.FS.createDirAll path)

/-- Tells how a call of the program ended. -/
def report (outcome : Outcome) : IO Unit := do
  match outcome with
  | .printed text => (← IO.getStdout).putStr text
  | .misused => (← IO.getStderr).putStr ("Usage: " ++ Topic.program.usage ++ "\n")
  | .failed failure =>
    let err ← IO.getStderr
    err.putStr ("Error: " ++ failure.context ++ "\n")
    match failure.cause? with
    | some cause => err.putStr ("\nCaused by:\n    " ++ cause ++ "\n")
    | none => pure ()

end Platen.Command

/-- Runs the program. -/
def main (args : List String) : IO UInt32 := do
  let outcome ← Platen.Command.call Platen.Command.systemFiles args
  Platen.Command.report outcome
  return outcome.status.toUInt32
