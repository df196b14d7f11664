import ForeignBindings.Configuration
import ForeignBindings.Format.Converter
import ForeignBindings.Text.Blank
import ForeignBindings.Value.Yaml
import ForeignBindings.Value.YamlText

/-!
# Configurations as values

The data format of configurations, and configuration files. An entry that is not
a part of a configuration is refused, and so is a part that is given twice; every
part may be absent.
-/

namespace ForeignBindings

/-- Reads a data model. -/
def DataModel.decode? (value : Value) : Option DataModel := value.asOneOf? .written all word

namespace Configuration

/-- The fields of a configuration. -/
def fields (configuration : Configuration) : Fields :=
  [("library_name", .text configuration.libraryName),
    ("root_directory", .text configuration.rootDirectory),
    ("output_directory", .text configuration.outputDirectory),
    ("file_names", .ofList .text configuration.fileNames),
    ("header_group", .ofList .text configuration.headerGroup),
    ("compiler_options", .ofList .text configuration.compilerOptions),
    ("allow_custom_fixed_size_int", .boolean configuration.allowCustomFixedSizeInt),
    ("assume_extern_c", .boolean configuration.assumeExternC),
    ("warn_no_c_linkage", .boolean configuration.warnNoCLinkage),
    ("warn_no_external_formal_linkage", .boolean configuration.warnNoExternalFormalLinkage),
    ("void_ptr_as_any_ptr", .boolean configuration.voidPointerAsAny),
    ("allow_rank_n_types", .boolean configuration.allowRankNTypes),
    ("storable_instances", .boolean configuration.storableInstances),
    ("target", .text configuration.model.word),
    ("converters", configuration.converters.encode),
    ("file_converters", .ofMap NameConverter.encode configuration.fileConverters),
    ("module_names", .ofMap .text configuration.moduleNames),
    ("name_overrides", .ofMap NameOverrides.encode configuration.nameOverrides),
    ("namespaces", configuration.namespaces.encode)]

/-- The names of the parts of a configuration. -/
def fieldNames : List String := (fields {}).map Prod.fst

/-- A configuration as a value. -/
def encode (configuration : Configuration) : Value := .record configuration.fields

/-- Reads the fields of a configuration. -/
def ofFields? (fields : Fields) : Option Configuration := do
  let defaults : Configuration := {}
  let text (name default : String) : Option String := fields.optional name default Value.asText?
  let texts (name : String) : Option (List String) :=
    fields.optional name [] (Value.asListOf? Value.asText?)
  let switch (name : String) (default : Bool) : Option Bool :=
    fields.optional name default Value.asBoolean?
  let map {α : Type} (name : String) (decode : Value → Option α) : Option (NameMap α) :=
    fields.optional name .empty (Value.asMapOf? decode)
  some {
    libraryName := ← text "library_name" defaults.libraryName
    rootDirectory := ← text "root_directory" defaults.rootDirectory
    outputDirectory := ← text "output_directory" defaults.outputDirectory
    fileNames := ← texts "file_names"
    headerGroup := ← texts "header_group"
    compilerOptions := ← texts "compiler_options"
    allowCustomFixedSizeInt :=
      ← switch "allow_custom_fixed_size_int" defaults.allowCustomFixedSizeInt
    assumeExternC := ← switch "assume_extern_c" defaults.assumeExternC
    warnNoCLinkage := ← switch "warn_no_c_linkage" defaults.warnNoCLinkage
    warnNoExternalFormalLinkage :=
      ← switch "warn_no_external_formal_linkage" defaults.warnNoExternalFormalLinkage
    voidPointerAsAny := ← switch "void_ptr_as_any_ptr" defaults.voidPointerAsAny
    allowRankNTypes := ← switch "allow_rank_n_types" defaults.allowRankNTypes
    storableInstances := ← switch "storable_instances" defaults.storableInstances
    model := ← fields.optional "target" defaults.model DataModel.decode?
    converters := ← fields.optional "converters" defaults.converters ConverterSet.decode?
    fileConverters := ← map "file_converters" NameConverter.decode?
    moduleNames := ← map "module_names" Value.asText?
    nameOverrides := ← map "name_overrides" NameOverrides.decode?
    namespaces := ← fields.optional "namespaces" defaults.namespaces NamespacePolicy.decode? }

/-- Reads a configuration. -/
def decode? (value : Value) : Option Configuration := do
  let fields ← value.asFields?
  if fields.all fun field => fieldNames.contains field.1 then ofFields? fields else none

/-- Reads the text of a configuration file. A blank one is the default configuration. -/
def ofText? (text : String) : Option Configuration :=
  if Text.isBlankText text then some {} else (Yaml.read? text).bind decode?

/-- The text of a configuration file. -/
def toText (configuration : Configuration) : String := Yaml.write configuration.encode

end Configuration

end ForeignBindings
