import ForeignBindings.Diagnostic
import ForeignBindings.Name.Converter
import ForeignBindings.Name.Kind
import ForeignBindings.Render.Options
import ForeignBindings.Lowering.Policy

/-!
# Configurations

A configuration describes one run: which dumps are processed, how declarations
are lowered, how things are named, and where the modules go. Every part has a
default. One that breaks a rule is not run at all.
-/

namespace ForeignBindings

/-- The description of a run. -/
structure Configuration where
  /-- The first part of every module name. -/
  libraryName : String := "Library"
  /-- The directory below which paths of source files count. -/
  rootDirectory : String := ""
  outputDirectory : String := "out"
  /-- The dumps, in the order in which they are processed. -/
  fileNames : List String := []
  /-- The files for which declarations from included headers belong to the interface. -/
  headerGroup : List String := []
  /-- What the front end is told. -/
  compilerOptions : List String := []
  allowCustomFixedSizeInt : Bool := false
  assumeExternC : Bool := false
  warnNoCLinkage : Bool := true
  warnNoExternalFormalLinkage : Bool := false
  voidPointerAsAny : Bool := true
  allowRankNTypes : Bool := true
  storableInstances : Bool := false
  model : DataModel := .lp64
  converters : ConverterSet := {}
  /-- Converters that are layered under the shared one, by source file. -/
  fileConverters : NameMap NameConverter := .empty
  /-- Module names that are given outright, by source file. -/
  moduleNames : NameMap String := .empty
  /-- Names that are given outright, by module name. -/
  nameOverrides : NameMap NameOverrides := .empty
  namespaces : NamespacePolicy := .flat
deriving DecidableEq, Repr, Inhabited

namespace Configuration

/-- The switches of the lowering of one source file. -/
def policy (configuration : Configuration) (file : String) : LoweringPolicy where
  allowCustomFixedSizeInt := configuration.allowCustomFixedSizeInt
  assumeExternC := configuration.assumeExternC
  warnNoCLinkage := configuration.warnNoCLinkage
  warnNoExternalFormalLinkage := configuration.warnNoExternalFormalLinkage
  headerGroup := configuration.headerGroup.contains file

/-- The choices that shape generated modules. -/
def renderOptions (configuration : Configuration) : RenderOptions where
  libraryName := configuration.libraryName
  voidPointerAsAny := configuration.voidPointerAsAny
  allowRankNTypes := configuration.allowRankNTypes
  storableInstances := configuration.storableInstances
  model := configuration.model

/-- The error that a converter breaks a rule. -/
def converterProblem (error : ConverterError) : Diagnostic := .error .converterInvalid error.message

/-- The error that a name is given and empty. -/
def emptyProblem (what : String) : Diagnostic := .error .explicitNameEmpty (what ++ " is empty")

/-- The problems of converters for single files. -/
def fileConverterProblems (configuration : Configuration) : List Diagnostic :=
  configuration.fileConverters.entries.filterMap fun (file, converter) =>
    (converter.sharedError? ("file_converters." ++ file)).map converterProblem

/-- The problems of the library name and of module names that are given outright. -/
def moduleNameProblems (configuration : Configuration) : List Diagnostic :=
  (if configuration.libraryName = "" then [emptyProblem "`library_name`"] else []) ++
    (configuration.moduleNames.entries.filter fun entry => entry.2 == "").map fun entry =>
      emptyProblem ("the module name for `" ++ entry.1 ++ "`")

/-- The problems of names that are given outright. -/
def overrideProblems (configuration : Configuration) : List Diagnostic :=
  configuration.nameOverrides.entries.flatMap fun (module, overrides) =>
    overrides.emptyOutputs.map fun raw =>
      emptyProblem ("the name override for `" ++ raw ++ "` in module `" ++ module ++ "`")

/-- The warning that an option has no effect. -/
def optionProblems (configuration : Configuration) : List Diagnostic :=
  if configuration.allowRankNTypes && !configuration.voidPointerAsAny then
    [((Diagnostic.warning .optionsInconsistent "`allow_rank_n_types` has no effect").withNote
      "RankNTypes is only needed to quantify `void*` record fields").withSuggestion
      "enable `void_ptr_as_any_ptr` or disable `allow_rank_n_types`"]
  else []

/-- Everything that is wrong with a configuration. -/
def problems (configuration : Configuration) : List Diagnostic :=
  configuration.converters.errors.map converterProblem ++ configuration.fileConverterProblems ++
    configuration.moduleNameProblems ++ configuration.overrideProblems ++
    configuration.optionProblems

/-- A configuration is run unless one of its problems is an error. -/
def isRunnable (configuration : Configuration) : Bool :=
  !configuration.problems.any Diagnostic.isError

end Configuration

end ForeignBindings
