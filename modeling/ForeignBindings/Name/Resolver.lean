import ForeignBindings.Name.Converter
import ForeignBindings.Name.Table

/-!
# Name resolution

A `Resolver` turns the source names of one module into host identifiers and
remembers them. What a name becomes depends on its kind and its raw name alone:
an override if there is one, else the conversion by the chain of the kind.
Resolving reports nothing; clashes are read off the tables afterwards.

A `ModuleNameTable` does the same for the names of all modules of a run.
-/

namespace ForeignBindings

/-- The host name of a raw name: the one that is given for it, which must not be empty, or
else what the chain makes of it. -/
def convertName (given : Option String) (chain : Chain) (raw : String) :
    Except ConverterError String :=
  match given with
  | some output => if output = "" then .error (.emptyName raw) else .ok output
  | none => chain.convert raw

/-- The names of one module. -/
structure Resolver where
  moduleName : String
  overrides : NameOverrides
  chains : PerKind Chain
  tables : PerKind NameTable
deriving Inhabited

namespace Resolver

/-- A resolver that has resolved nothing. -/
def new (moduleName : String) (converters : ConverterSet) (file : Option NameConverter)
    (overrides : NameOverrides) (namespaces : NamespacePolicy) : Resolver where
  moduleName
  overrides
  chains := .ofFunction fun kind => converters.chain kind.variant file
  tables := .ofFunction fun kind => .empty (namespaces.get kind)

/-- What a source name becomes, whatever was resolved before. -/
def value (resolver : Resolver) (kind : ItemKind) (raw : String) :
    Except ConverterError String :=
  convertName (resolver.overrides.find? (.item kind) raw) (resolver.chains.get kind) raw

/-- Resolves a source name. -/
def resolve (resolver : Resolver) (kind : ItemKind) (source : ScopedName) :
    Except ConverterError String × Resolver :=
  let (result, table) := (resolver.tables.get kind).resolve source (resolver.value kind source.name)
  (result, { resolver with tables := resolver.tables.set kind table })

/-- The kinds of items in the order in which their clashes are reported. -/
def reportOrder : List ItemKind := [.type, .constructor, .variable]

/-- All clashes of the module. -/
def clashes (resolver : Resolver) (keywords : Keywords) : List Clash :=
  reportOrder.flatMap fun kind =>
    (resolver.tables.get kind).clashes (.item kind) (some resolver.moduleName) keywords

end Resolver

/-- The names of the modules of a run, by source file. -/
structure ModuleNameTable where
  /-- The files that are given a module name outright. -/
  explicit : NameMap String := .empty
  table : NameTable := .empty .flat
deriving Inhabited

namespace ModuleNameTable

/-- A table in which some files have a module name that was given outright. -/
def new (explicit : NameMap String) : ModuleNameTable := { explicit }

/-- Resolves the module name of a file from the raw name that its path yields. Files are the
keys, so that a clash names the files that collide. -/
def resolve (modules : ModuleNameTable) (file raw : String) (chain : Chain) :
    Except ConverterError String × ModuleNameTable :=
  let (result, table) :=
    modules.table.resolve (.unscoped file) (convertName (modules.explicit.find? file) chain raw)
  (result, { modules with table })

/-- All clashes of module names. -/
def clashes (modules : ModuleNameTable) (keywords : Keywords) : List Clash :=
  modules.table.clashes .module none keywords

end ModuleNameTable

end ForeignBindings
