import ForeignBindings.CommandLine

/-!
# The program

Reads the arguments and the files that they name, and writes modules, dumps and
diagnostics.
-/

namespace ForeignBindings

/-- What a failed operation of the file system means. -/
def FileFault.ofError : IO.Error → FileFault
  | .noFileOrDirectory .. => .missing
  | .alreadyExists .. => .alreadyExists
  | .inappropriateType _ code _ =>
    if code = 20 then .notDirectory else .isDirectory
  | error => .other (toString error)

/-- The files of the file system. -/
def systemFiles : FileAccess IO where
  read path := do
    try return .ok (← IO.FS.readFile path)
    catch error => return .error (.ofError error)
  write path text := do
    try
      match Path.parent? path with
      | none | some "" => pure ()
      | some directory => IO.FS.createDirAll directory
      IO.FS.writeFile path text
      return .ok ()
    catch error => return .error (.ofError error)

end ForeignBindings

/-- Runs the program. -/
def main (arguments : List String) : IO UInt32 := do
  let request := ForeignBindings.Request.ofArguments {} arguments
  let toTerminal ← (← IO.getStderr).isTty
  let outcome ← request.execute ForeignBindings.systemFiles toTerminal
  IO.print outcome.output
  IO.eprint outcome.errors
  return UInt32.ofNat outcome.status
