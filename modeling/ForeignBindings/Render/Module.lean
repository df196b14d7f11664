import ForeignBindings.Path
import ForeignBindings.Render.Storable

/-!
# Generated modules

A module consists of a header, an empty data declaration for each type that it
mentions and does not define, its tags, and a foreign import for each entity. An
enum becomes a newtype with pattern synonyms, a struct a record. Every identifier
goes through the resolver, so that clashes can be looked up afterwards.
-/

namespace ForeignBindings

/-- A module ready to be written. -/
structure GeneratedModule where
  /-- The full module name. -/
  name : String
  /-- The path of the module below the output directory. -/
  path : String
  text : String
deriving DecidableEq, Repr, Inhabited

namespace Render

/-- The names of types that a module mentions and does not define, in ascending order. -/
def undefinedNames (contents : Contents) : List String :=
  (NameMap.distinctNames (contents.types.flatMap CType.mentionedNames)).filter fun name =>
    name ≠ "" && !contents.tags.contains name

/-- The Haskell modules that every module imports. -/
def standardImports : List String :=
  ["Foreign.C.Types", "Foreign.C.String", "Foreign.Storable", "Foreign.Ptr",
    "Foreign.Marshal.Alloc", "Data.Int", "Data.Word"]

/-- The line that turns a language extension on. -/
def languagePragma (extension : String) : String :=
  "\x7b-# LANGUAGE " ++ extension ++ " #-\x7d"

/-- The line that sets a compiler option. -/
def optionPragma (option : String) : String := "\x7b-# OPTIONS_GHC " ++ option ++ " #-\x7d"

/-- The lines that import modules. -/
def importLines (modules : List String) : List String := modules.map fun name => "import " ++ name

/-- The lines in front of the declarations. -/
def headerLines (options : RenderOptions) (name : String) : List String :=
  ["EmptyDataDecls", "ForeignFunctionInterface", "PatternSynonyms"].map languagePragma ++
    (if options.allowRankNTypes then [languagePragma "RankNTypes"] else []) ++
    ["-Wno-missing-pattern-synonym-signatures", "-Wno-unused-imports"].map optionPragma ++
    ["module " ++ name ++ " where"]

/-- Renders what stands in front of the declarations. -/
def header (options : RenderOptions) (name : String) (imports : List String) : Render Unit := do
  lines (headerLines options name)
  blank
  lines (importLines standardImports)
  blank
  unless imports.isEmpty do
    lines (importLines imports)
    blank

/-- Renders an empty data declaration. -/
def emptyData (name : String) : Render Unit := do
  let output ← typeName name
  line ("data " ++ output)

/-- Renders the empty data declarations of a module. -/
def emptyDatas (names : List String) : Render Unit := do
  unless names.isEmpty do
    names.forM emptyData
    blank

/-- A number as a pattern; a negative one stands in parentheses. -/
def numeral (value : Int) : String := parenthesized (value < 0) (toString value)

/-- Renders the pattern synonym of an enumerator. -/
def enumerator (enumName constructor : String) (item : Enumerator) : Render Unit := do
  let pattern ← constructorName enumName item.name
  line ("pattern " ++ pattern ++ " = " ++ constructor ++ " " ++ numeral item.value.toInt)

/-- Renders an enum: a newtype of its integer type with a pattern for each enumerator. The
accessor is a binding of the module and so a variable. -/
def enumeration (options : RenderOptions) (name : String) (underlying : CType)
    (values : List Enumerator) : Render Unit := do
  let output ← typeName name
  let constructor ← constructorName "" name
  let accessor ← variableName name ("unwrap_" ++ name)
  let integer ← typeText options.voidPointerAsAny underlying false
  line ("newtype " ++ output ++ " = " ++ constructor ++ " \x7b " ++ accessor ++ " :: " ++
    integer ++ " \x7d")
  values.forM (enumerator name constructor)
  blank
  if options.storableInstances then enumInstance options.model output constructor underlying

/-- Renders a field of a record behind its opening brace or comma. -/
def recordField (options : RenderOptions) (structName lead : String) (field : Entity CType) :
    Render Unit := do
  let output ← variableName structName field.name
  let type ← fieldText options field.type
  line (lead ++ " " ++ output ++ " :: " ++ type)

/-- Renders the fields of a record, further in. -/
def recordFields (options : RenderOptions) (structName : String) :
    List (Entity CType) → Render Unit
  | [] => pure ()
  | first :: rest => indented do
    recordField options structName "\x7b" first
    rest.forM (recordField options structName ",")
    line "\x7d"

/-- Renders a struct: a record, with an instance if instances are wanted. -/
def structRecord (options : RenderOptions) (tags : NameMap Tag) (name : String)
    (fields : List (Entity CType)) : Render Unit := do
  let output ← typeName name
  let constructor ← constructorName "" name
  line ("data " ++ output ++ " = " ++ constructor)
  recordFields options name fields
  blank
  if options.storableInstances then
    structInstance options.model tags name output constructor fields

/-- Renders a tag of a module. -/
def tag (options : RenderOptions) (tags : NameMap Tag) (name : String) : Tag → Render Unit
  | .structure fields => structRecord options tags name fields
  | .enumeration underlying values => enumeration options name underlying values

/-- Renders the import of a function, or of a variable by its address. -/
def entity (options : RenderOptions) (name : String) (type : CType) : Render Unit := do
  let output ← variableName "" name
  let _ ← resetFresh
  let text ← typeText options.voidPointerAsAny type (!type.isFunction)
  let _ ← resetFresh
  line (if type.isFunction then
      "foreign import ccall \"" ++ name ++ "\" " ++ output ++ " :: " ++ text
    else "foreign import ccall \"&" ++ name ++ "\" " ++ output ++ " :: Ptr " ++ text)

/-- The full name of a module. -/
def fullModuleName (options : RenderOptions) (name : String) : String :=
  options.libraryName ++ ".LowLevel." ++ name

/-- The path of a module below the output directory. -/
def modulePath (options : RenderOptions) (name : String) : String :=
  Path.join (Path.join options.libraryName "LowLevel") (name ++ ".hs")

/-- Renders a module of the given name. -/
def module (options : RenderOptions) (name : String) (contents : Contents) :
    Render GeneratedModule := do
  let fullName := fullModuleName options name
  header options fullName contents.imports
  emptyDatas (undefinedNames contents)
  contents.tags.entries.forM fun entry => tag options contents.tags entry.1 entry.2
  contents.entities.entries.forM fun entry => entity options entry.1 entry.2
  let text ← takeText
  pure { name := fullName, path := modulePath options name, text }

end Render

/-- Makes the searches for layouts that the module of lowered contents takes: those for the
instance of each struct, if instances are wanted. Unless they end, no module comes of them. -/
def Contents.searchLayouts (contents : Contents) (options : RenderOptions) : Option Unit := do
  if options.storableInstances then
    contents.tags.entries.forM fun entry => do
      if let .structure fields := entry.2 then
        let _ ← Render.searchInstance options.model contents.tags entry.1 fields

/-- Generates the module of lowered contents, once the searches for layouts are over. Names
go through the resolver; names that cannot be converted and structs without a layout are
reported to the queue. -/
def Contents.generate (contents : Contents) (options : RenderOptions) (name : String)
    (resolver : Resolver) (queue : Queue) : GeneratedModule × Resolver × Queue :=
  let (generated, state) := (Render.module options name contents).run { resolver, queue }
  (generated, state.resolver, state.queue)

end ForeignBindings
