import ForeignBindings.Diagnostic.Code
import ForeignBindings.Location

/-!
# Diagnostics

A diagnostic says what happened, where, and what to do about it. Errors count
towards the exit status, a warning marks a declaration that the bindings leave
out, and notes carry the context of the warning that they follow.
-/

namespace ForeignBindings

/-- How bad a diagnostic is, worst first. -/
inductive Severity where
  | error
  | warning
  | note
deriving DecidableEq, Repr, Inhabited

namespace Severity

/-- The word that names a severity. -/
def word : Severity → String
  | error => "error"
  | warning => "warning"
  | note => "note"

/-- The number of severities that are worse. -/
def rank : Severity → Nat
  | error => 0
  | warning => 1
  | note => 2

end Severity

/-- A place in a source file with what happened there. -/
structure Label where
  location : Location
  message : String
deriving DecidableEq, Repr, Inhabited

/-- A diagnostic. The first label says where the problem is; others add context. -/
structure Diagnostic where
  code : Code
  severity : Severity
  message : String := ""
  labels : List Label := []
  notes : List String := []
  suggestions : List String := []
deriving DecidableEq, Repr, Inhabited

namespace Diagnostic

/-- An error with its message. -/
def error (code : Code) (message : String) : Diagnostic := { code, severity := .error, message }

/-- A warning with its message. -/
def warning (code : Code) (message : String) : Diagnostic :=
  { code, severity := .warning, message }

/-- A note with its message. -/
def note (code : Code) (message : String) : Diagnostic := { code, severity := .note, message }

/-- Points at a location; one that is not known is left out. -/
def withLabel (diagnostic : Diagnostic) (location : Location) (message : String) : Diagnostic :=
  if location.isKnown then
    { diagnostic with labels := diagnostic.labels ++ [⟨location, message⟩] }
  else diagnostic

/-- Adds a remark. -/
def withNote (diagnostic : Diagnostic) (text : String) : Diagnostic :=
  { diagnostic with notes := diagnostic.notes ++ [text] }

/-- Adds a suggestion. -/
def withSuggestion (diagnostic : Diagnostic) (text : String) : Diagnostic :=
  { diagnostic with suggestions := diagnostic.suggestions ++ [text] }

/-- The location of the first label. -/
def primaryLocation? (diagnostic : Diagnostic) : Option Location :=
  diagnostic.labels.head?.map Label.location

/-- Whether the diagnostic is an error. -/
def isError (diagnostic : Diagnostic) : Bool := diagnostic.severity == .error

/-- Whether the diagnostic is a warning. -/
def isWarning (diagnostic : Diagnostic) : Bool := diagnostic.severity == .warning

/-- Whether the diagnostic is a note. -/
def isNote (diagnostic : Diagnostic) : Bool := diagnostic.severity == .note

end Diagnostic

end ForeignBindings
