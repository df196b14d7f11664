import ForeignBindings.Diagnostic
import ForeignBindings.Name.Kind
import ForeignBindings.ScopedName

/-!
# Name clashes

The report that several source names became one host identifier, or that a host
identifier is a reserved word.
-/

namespace ForeignBindings

/-- Why a host identifier is reported. -/
inductive ClashReason where
  /-- More than one source name became the identifier. -/
  | duplicate
  /-- The identifier is a reserved word. -/
  | keyword
deriving DecidableEq, Repr, Inhabited

namespace ClashReason

/-- Every reason. -/
def all : List ClashReason := [duplicate, keyword]

/-- The word that names a reason. -/
def word : ClashReason → String
  | duplicate => "duplicate"
  | keyword => "keyword"

end ClashReason

/-- A host identifier that cannot stand. -/
structure Clash where
  kind : NameKind
  /-- The module whose names clash; module names clash in no module. -/
  module : Option String
  output : String
  /-- Every source name that became the identifier, in ascending order. -/
  sources : List ScopedName
  reason : ClashReason
deriving DecidableEq, Repr, Inhabited

namespace Clash

/-- The clash in one line: the identifier and where it comes from. -/
def display (clash : Clash) : String :=
  clash.kind.text ++ " `" ++ clash.output ++ "` <- " ++
    ", ".intercalate (clash.sources.map ScopedName.display)

/-- The place of the clash: a module, or the run as a whole. -/
def place (clash : Clash) : String :=
  match clash.module with
  | some module => "module `" ++ module ++ "`"
  | none => "(global)"

/-- The clash as a diagnostic. -/
def diagnostic (clash : Clash) : Diagnostic :=
  let sources := ", ".intercalate (clash.sources.map fun source => "`" ++ source.display ++ "`")
  let subject := clash.kind.text ++ " name clash in " ++ clash.place ++ ": `" ++ clash.output
  match clash.reason with
  | .duplicate =>
    (Diagnostic.error .nameClash (subject ++ "` is produced by " ++ sources)).withSuggestion
      "add a name override or adjust the name converters"
  | .keyword =>
    (Diagnostic.error .nameReserved
      (subject ++ "` (from " ++ sources ++ ") is a reserved keyword")).withSuggestion
      "add a name override or an affix to the converter"

end Clash

end ForeignBindings
