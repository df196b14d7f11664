import ForeignBindings.Configuration
import ForeignBindings.Declaration
import ForeignBindings.Render.Module
import ForeignBindings.SourceFile
import ForeignBindings.Lowering.Unit

/-!
# What one source file yields

The unit of a source file is lowered, its module gets a name, and the module
is generated and checked for clashes. Of what other files left behind only the
table of module names matters.
-/

namespace ForeignBindings

/-- What the unit of one source file yields. -/
structure Product where
  /-- The key of the source file. -/
  key : String
  contents : Contents
  generated : GeneratedModule
  /-- Everything that was reported on the way. -/
  queue : Queue
deriving Inhabited

namespace Configuration

/-- The key of the source file that a unit was read from. A unit that does not name its file
stands for the one that the dump is named after. -/
def keyOf (configuration : Configuration) (dump : String) (unit : SourceUnit) : String :=
  let source := if unit.file = "" then SourceFile.ofDump dump else unit.file
  SourceFile.key source configuration.rootDirectory

/-- The report of a module name that cannot be converted. -/
def moduleUnconvertible (key : String) (error : ConverterError) : Diagnostic :=
  (Diagnostic.error .nameUnconvertible
    ("cannot convert the module name of `" ++ key ++ "`: " ++ error.message)).withSuggestion
    "set an explicit name in `module_names`"

/-- The name of the module of a source file, what is reported about it, and the table that
remembers it. A name that cannot be converted is used as it is. -/
def moduleName (configuration : Configuration) (modules : ModuleNameTable) (key : String) :
    String × List Diagnostic × ModuleNameTable :=
  let raw := SourceFile.rawModuleName key
  let chain := configuration.converters.chain .moduleName (configuration.fileConverters.find? key)
  match modules.resolve key raw chain with
  | (.ok name, modules) => (name, [], modules)
  | (.error error, modules) => (raw, [moduleUnconvertible key error], modules)

/-- The resolver for the names of a module. -/
def resolver (configuration : Configuration) (key name : String) : Resolver :=
  .new name configuration.converters (configuration.fileConverters.find? key)
    ((configuration.nameOverrides.find? name).getD .none) configuration.namespaces

/-- The contents of the module that the unit of a dump is turned into. -/
def contentsOf (configuration : Configuration) (dump : String) (unit : SourceUnit) : Contents :=
  (unit.lower (configuration.policy (configuration.keyOf dump unit)) {}).1

/-- Makes the searches for layouts that the module of a dump takes. -/
def searchLayouts (configuration : Configuration) (dump : String) (unit : SourceUnit) :
    Option Unit :=
  (configuration.contentsOf dump unit).searchLayouts configuration.renderOptions

/-- Turns the unit of a dump into a module, once the searches for layouts are over. -/
def produce (configuration : Configuration) (modules : ModuleNameTable) (dump : String)
    (unit : SourceUnit) : Product × ModuleNameTable :=
  let key := configuration.keyOf dump unit
  let (contents, queue) := unit.lower (configuration.policy key) {}
  let (name, reports, modules) := configuration.moduleName modules key
  let (generated, resolver, queue) :=
    contents.generate configuration.renderOptions name (configuration.resolver key name)
      (queue.extend reports)
  let queue := queue.extend ((resolver.clashes .haskell).map Clash.diagnostic)
  ({ key, contents, generated, queue }, modules)

end Configuration

end ForeignBindings
