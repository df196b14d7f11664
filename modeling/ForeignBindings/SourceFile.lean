import ForeignBindings.Path

/-!
# Source files

Dumps stand for source files, and source files stand for modules. The key of a
source file, under which a configuration speaks about it, is its path below the
root directory, in a normal form.
-/

namespace ForeignBindings.SourceFile

/-- The extensions of dumps. -/
def dumpExtensions : List String := ["yaml", "yml", "json"]

/-- The source file that a dump stands for: its path without the extension of a dump. -/
def ofDump (dump : String) : String :=
  match Path.extension? dump with
  | some extension => if dumpExtensions.contains extension then Path.withoutExtension dump else dump
  | none => dump

/-- What is left of a path behind the parts of another one, if it starts with them. -/
def below? : (root file : List PathPart) → Option (List PathPart)
  | [], file => some file
  | _ :: _, [] => none
  | wanted :: root, part :: file => if wanted = part then below? root file else none

/-- The key of a source file: the names on its path below the root directory, or on all of
its path if it lies elsewhere. -/
def key (file root : String) : String :=
  let parts := Path.parts file
  "/".intercalate (((below? (Path.parts root) parts).getD parts).filterMap PathPart.name?)

/-- The name from which the name of a module is made: the key without its extension. -/
def rawModuleName (key : String) : String := Path.withoutExtension key

end ForeignBindings.SourceFile
