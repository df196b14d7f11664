import ForeignBindings.Diagnostic.Terminal
import ForeignBindings.Format.Contents
import ForeignBindings.Value.JsonText
import ForeignBindings.Value.YamlText

/-!
# Sessions

What the runs of one session share: the terminal that diagnostics go to, their
numbers, the text of the dumps, and whether the warning about packed structs was
given.
-/

namespace ForeignBindings

/-- In which formats the contents of modules are dumped. -/
structure DumpOptions where
  yaml : Bool := false
  json : Bool := false
deriving DecidableEq, Repr, Inhabited

/-- What the runs of one session leave behind. -/
structure Session where
  /-- Every diagnostic that was reported, in order. -/
  reported : List Diagnostic := []
  terminal : Terminal := {}
  /-- The number of errors among the diagnostics. -/
  errors : Nat := 0
  /-- The number of warnings among the diagnostics. -/
  warnings : Nat := 0
  /-- The dumps of modules. -/
  dump : String := ""
  /-- Whether the warning about packed structs was given. -/
  warnedPacked : Bool := false
deriving DecidableEq, Repr, Inhabited

namespace Session

/-- Counts a diagnostic. -/
def count (session : Session) (diagnostic : Diagnostic) : Session :=
  match diagnostic.severity with
  | .error => { session with errors := session.errors + 1 }
  | .warning => { session with warnings := session.warnings + 1 }
  | .note => session

/-- Reports diagnostics. -/
def report (session : Session) (diagnostics : List Diagnostic) : Session :=
  { diagnostics.foldl count session with
    reported := session.reported ++ diagnostics
    terminal := session.terminal.emitAll diagnostics }

/-- The warning that instances assume the natural layout. -/
def packedWarning : Diagnostic :=
  (Diagnostic.warning .packedStructs "Storable instances assume natural struct layout").withNote
    "packed structs will get incorrect peek/poke offsets"

/-- Gives the warning about packed structs where instances are wanted, once a session. -/
def warnPacked (session : Session) (isWanted : Bool) : Session :=
  if isWanted && !session.warnedPacked then
    { session with warnedPacked := true }.report [packedWarning]
  else session

/-- The dump of the contents of a module in the wanted formats. -/
def dumpText (options : DumpOptions) (key : String) (contents : Contents) : String :=
  let value : Value := .record [(key, contents.encode)]
  (if options.yaml then Yaml.write value else "") ++
    (if options.json then Json.pretty 0 value ++ "\n" else "")

/-- Dumps the contents of a module. -/
def dumpContents (session : Session) (options : DumpOptions) (key : String)
    (contents : Contents) : Session :=
  { session with dump := session.dump ++ dumpText options key contents }

/-- Writes the summary that ends a session. -/
def finish (session : Session) : Session :=
  { session with terminal := session.terminal.summarize session.errors session.warnings }

end Session

end ForeignBindings
