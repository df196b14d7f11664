import ForeignBindings.Text.Blank

/-!
# Diagnostic codes

Every diagnostic carries a code. The first digit of its text names the stage of a
run that reports it, so the stage is a function of the code.
-/

namespace ForeignBindings

/-- The stages of a run that report diagnostics. -/
inductive Stage where
  | configuration
  | frontEnd
  | lowering
  | naming
  | generation
deriving DecidableEq, Repr

/-- What a diagnostic reports. -/
inductive Code where
  | configurationUnreadable
  | converterInvalid
  | explicitNameEmpty
  | optionsInconsistent
  | unitUnavailable
  | builtinUnsupported
  | referenceUnsupported
  | conventionUnsupported
  | constructUnknown
  | notMarshallable
  | noExternalLinkage
  | noCLinkage
  | enclosingDeclaration
  | nameClash
  | nameReserved
  | nameUnconvertible
  | packedStructs
  | layoutUnknown
  | moduleUnwritable
deriving DecidableEq, Repr, Inhabited

namespace Code

/-- Every code in the order of the texts. -/
def all : List Code :=
  [configurationUnreadable, converterInvalid, explicitNameEmpty, optionsInconsistent,
    unitUnavailable, builtinUnsupported, referenceUnsupported, conventionUnsupported,
    constructUnknown, notMarshallable, noExternalLinkage, noCLinkage, enclosingDeclaration,
    nameClash, nameReserved, nameUnconvertible, packedStructs, layoutUnknown, moduleUnwritable]

/-- The text of a code. -/
def text : Code → String
  | configurationUnreadable => "E0001"
  | converterInvalid => "E0002"
  | explicitNameEmpty => "E0003"
  | optionsInconsistent => "E0004"
  | unitUnavailable => "E1001"
  | builtinUnsupported => "E2001"
  | referenceUnsupported => "E2002"
  | conventionUnsupported => "E2003"
  | constructUnknown => "E2004"
  | notMarshallable => "E2005"
  | noExternalLinkage => "E2006"
  | noCLinkage => "E2007"
  | enclosingDeclaration => "E2008"
  | nameClash => "E3001"
  | nameReserved => "E3002"
  | nameUnconvertible => "E3003"
  | packedStructs => "E4001"
  | layoutUnknown => "E4002"
  | moduleUnwritable => "E4003"

/-- The stage that reports a code. -/
def stage : Code → Stage
  | configurationUnreadable | converterInvalid | explicitNameEmpty | optionsInconsistent =>
    .configuration
  | unitUnavailable => .frontEnd
  | builtinUnsupported | referenceUnsupported | conventionUnsupported | constructUnknown
  | notMarshallable | noExternalLinkage | noCLinkage | enclosingDeclaration => .lowering
  | nameClash | nameReserved | nameUnconvertible => .naming
  | packedStructs | layoutUnknown | moduleUnwritable => .generation

/-- One line on what a code means. -/
def description : Code → String
  | configurationUnreadable => "the configuration file could not be read or parsed"
  | converterInvalid =>
    "a name converter is misconfigured: module, type and constructor names must start " ++
      "upper-case, variable names lower-case or '_', and the shared converters may not set a " ++
      "case or add a prefix"
  | explicitNameEmpty => "an explicit module name or name override is empty"
  | optionsInconsistent =>
    "configuration options are inconsistent, e.g. `allow_rank_n_types` without " ++
      "`void_ptr_as_any_ptr`; the run continues"
  | unitUnavailable =>
    "the C/C++ front end could not produce declarations for a file; the file is skipped and " ++
      "counted as an error"
  | builtinUnsupported =>
    "a builtin type (extended float, 128-bit integer, OpenCL or vendor type) has no portable " ++
      "FFI representation; the declaration is skipped"
  | referenceUnsupported =>
    "C++ references (lvalue or rvalue) cannot cross a C FFI boundary; the declaration is skipped"
  | conventionUnsupported =>
    "a function pointer does not use the C calling convention; the declaration is skipped"
  | constructUnknown =>
    "a type construct was not recognized at all; this is a tool bug, please report it"
  | notMarshallable =>
    "only integers, floating point numbers and pointers can be passed by value; the " ++
      "declaration is skipped"
  | noExternalLinkage => "the declaration has no external formal linkage and is skipped"
  | noCLinkage =>
    "the declaration has no C language linkage and is skipped; set `assume_extern_c` to bind " ++
      "it anyway"
  | enclosingDeclaration => "context of a skipped declaration"
  | nameClash =>
    "several source identifiers convert to the same output identifier; adjust the name " ++
      "converters or add a name override"
  | nameReserved =>
    "an output identifier is a reserved keyword of the host language; add a prefix/suffix or " ++
      "a name override"
  | nameUnconvertible =>
    "an identifier is empty once its prefix or suffix is removed; the unconverted identifier " ++
      "is used instead"
  | packedStructs =>
    "struct layouts are computed assuming natural alignment; packed structs will get " ++
      "incorrect marshalling code"
  | layoutUnknown =>
    "a struct contains a field of unknown size, so no marshalling instance is generated for it"
  | moduleUnwritable => "a generated file could not be written"

/-- Reads a code, in letters of either case and with white space around it. -/
def ofText? (text : String) : Option Code :=
  let wanted := (Text.trim text).toUpper
  all.find? fun code => code.text == wanted

/-- The complaint about a text that names no code. -/
def unknownMessage (text : String) : String := "unknown error code `" ++ text ++ "`"

end Code

end ForeignBindings
