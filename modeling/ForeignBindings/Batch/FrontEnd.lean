import ForeignBindings.Diagnostic
import ForeignBindings.FileTree
import ForeignBindings.Format.Declaration
import ForeignBindings.Value.Json
import ForeignBindings.Value.Yaml

/-!
# Front ends

A front end yields the declarations of a source file. The one that is used here
reads them from a dump, which is a JSON or a YAML text.
-/

namespace ForeignBindings

/-- The data formats of dumps. -/
inductive DumpFormat where
  | yaml
  | json
deriving DecidableEq, Repr, Inhabited

namespace DumpFormat

/-- The name of a format. -/
def name : DumpFormat → String
  | yaml => "YAML"
  | json => "JSON"

/-- The format of a dump. Dumps are JSON texts if their extension says so. -/
def ofPath (path : String) : DumpFormat :=
  if Path.extension? path = some "json" then json else yaml

/-- Reads a text in a format. -/
def read? : DumpFormat → String → Option Value
  | yaml, text => Yaml.read? text
  | json, text => Json.read? text

end DumpFormat

/-- What stands where the reason would stand for which a text cannot be read; the readers give
none. -/
def unspecifiedReason : String := "<parser text>"

/-- Why there are no declarations for a source file. -/
inductive UnitError where
  | unreadable (path : String) (fault : FileFault)
  | malformed (path : String) (format : DumpFormat)
deriving DecidableEq, Repr, Inhabited

namespace UnitError

/-- The error in words. -/
def message : UnitError → String
  | unreadable path fault => "cannot read `" ++ path ++ "`: " ++ fault.message
  | malformed path format =>
    "malformed " ++ format.name ++ " dump `" ++ path ++ "`: " ++ unspecifiedReason

/-- The error as a diagnostic. -/
def diagnostic (error : UnitError) : Diagnostic :=
  (Diagnostic.error .unitUnavailable error.message).withNote "the file is skipped"

end UnitError

/-- How files are read and written; to write a file includes making its directory. -/
structure FileAccess (m : Type → Type) where
  read : (path : String) → m (Except FileFault String)
  write : (path text : String) → m (Except FileFault Unit)

/-- Access to the files of a tree. -/
def FileTree.access : FileAccess (StateM FileTree) where
  read path := do return (← get).read path
  write path text := modifyGet fun tree => tree.write path text

/-- What yields the declarations of a source file. -/
structure FrontEnd (m : Type → Type) where
  parse : (path : String) → (options : List String) → m (Except UnitError SourceUnit)

/-- The declarations that a dump holds. -/
def SourceUnit.ofDump (path text : String) : Except UnitError SourceUnit :=
  let format := DumpFormat.ofPath path
  match (format.read? text).bind decode? with
  | some unit => .ok unit
  | none => .error (.malformed path format)

/-- The front end that reads dumps. It takes no options. -/
def FrontEnd.ofDumps {m : Type → Type} [Monad m] (files : FileAccess m) : FrontEnd m where
  parse path _ := do
    match ← files.read path with
    | .ok text => return SourceUnit.ofDump path text
    | .error fault => return .error (.unreadable path fault)

end ForeignBindings
