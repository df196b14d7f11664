import ForeignBindings.Name.Converter
import ForeignBindings.Name.Kind
import ForeignBindings.Value.Collection

/-!
# Converters as values

The data format of what a configuration says about names: converters, names that
are given outright, and namespaces. The affixes of a converter stand beside its
case in one mapping.
-/

namespace ForeignBindings

namespace Affixes

/-- The fields of affixes. -/
def fields (affixes : Affixes) : Fields :=
  [("remove_prefix", .text affixes.removePrefix), ("remove_suffix", .text affixes.removeSuffix),
    ("add_prefix", .text affixes.addPrefix), ("add_suffix", .text affixes.addSuffix)]

/-- Reads the fields of affixes. -/
def ofFields? (fields : Fields) : Option Affixes := do
  let removePrefix ← fields.optional "remove_prefix" "" Value.asText?
  let removeSuffix ← fields.optional "remove_suffix" "" Value.asText?
  let addPrefix ← fields.optional "add_prefix" "" Value.asText?
  let addSuffix ← fields.optional "add_suffix" "" Value.asText?
  some { removePrefix, removeSuffix, addPrefix, addSuffix }

/-- Reads affixes. -/
def decode? (value : Value) : Option Affixes := do ofFields? (← value.asFields?)

end Affixes

/-- Reads a case. -/
def NameCase.decode? (value : Value) : Option NameCase := value.asOneOf? .written all word

/-- Reads a variant. -/
def NameVariant.decode? (value : Value) : Option NameVariant := value.asOneOf? .written all word

/-- Reads a namespace. -/
def Namespace.decode? (value : Value) : Option Namespace := value.asOneOf? .written all word

namespace NameConverter

/-- A converter as a value. -/
def encode (converter : NameConverter) : Value :=
  .record (("case", .text converter.nameCase.word) :: converter.affixes.fields)

/-- Reads a converter. What stands beside its case is settled. -/
def decode? (value : Value) : Option NameConverter := do
  let fields ← value.asFields?
  let nameCase ← fields.optional "case" .preserving NameCase.decode?
  let others ← (Value.record (fields.filter fun field => field.1 != "case")).settle?
  let affixes ← Affixes.decode? others
  some { nameCase, affixes }

end NameConverter

namespace ConverterSet

/-- Converters as a value. -/
def encode (converters : ConverterSet) : Value :=
  .record [("all", converters.shared.encode), ("module", converters.moduleName.encode),
    ("type", converters.typeName.encode), ("ctor", converters.constructorName.encode),
    ("var", converters.variableName.encode)]

/-- Reads converters. An absent converter has the default of its place. -/
def decode? (value : Value) : Option ConverterSet := do
  let fields ← value.asFields?
  let converter (name : String) (default : NameConverter) : Option NameConverter :=
    fields.optional name default NameConverter.decode?
  let defaults : ConverterSet := {}
  some {
    shared := ← converter "all" defaults.shared
    moduleName := ← converter "module" defaults.moduleName
    typeName := ← converter "type" defaults.typeName
    constructorName := ← converter "ctor" defaults.constructorName
    variableName := ← converter "var" defaults.variableName }

end ConverterSet

namespace NameOverrides

/-- Names that are given outright, as a value. -/
def encode (overrides : NameOverrides) : Value :=
  .record [("variables", .ofMap .text overrides.forVariables),
    ("types", .ofMap .text overrides.forTypes),
    ("ctors", .ofMap .text overrides.forConstructors)]

/-- Reads names that are given outright. -/
def decode? (value : Value) : Option NameOverrides := do
  let fields ← value.asFields?
  let names (kind : String) : Option (NameMap String) :=
    fields.optional kind .empty (Value.asMapOf? Value.asText?)
  some {
    forVariables := ← names "variables"
    forTypes := ← names "types"
    forConstructors := ← names "ctors" }

end NameOverrides

namespace NamespacePolicy

/-- Namespaces as a value. -/
def encode (policy : NamespacePolicy) : Value :=
  .record [("variable", .text policy.forVariables.word), ("type", .text policy.forTypes.word),
    ("ctor", .text policy.forConstructors.word)]

/-- Reads namespaces. -/
def decode? (value : Value) : Option NamespacePolicy := do
  let fields ← value.asFields?
  let space (kind : String) : Option Namespace :=
    fields.optional kind .flat Namespace.decode?
  some {
    forVariables := ← space "variable"
    forTypes := ← space "type"
    forConstructors := ← space "ctor" }

end NamespacePolicy

end ForeignBindings
