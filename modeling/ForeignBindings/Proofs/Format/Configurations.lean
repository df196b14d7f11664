import ForeignBindings.Format.Configuration
import ForeignBindings.Proofs.Format.Collections

/-!
# The format of configurations

Every part of a configuration may be left out where it has its default. The default belongs to
the place: an absent converter of types converts to camel case, while a converter that is there
and names no case preserves it.
-/

namespace ForeignBindings

/-- Cases are read back. -/
theorem NameCase.faithful :
    Value.Faithful (fun nameCase : NameCase => .text nameCase.word)
      (fun nameCase => {.text nameCase.word}) decode? :=
  Value.faithful_word .written fun nameCase => by cases nameCase <;> rfl

/-- Namespaces are read back. -/
theorem Namespace.faithful :
    Value.Faithful (fun space : Namespace => .text space.word) (fun space => {.text space.word})
      decode? :=
  Value.faithful_word .written fun space => by cases space <;> rfl

/-- Data models are read back. -/
theorem DataModel.faithful :
    Value.Faithful (fun model : DataModel => .text model.word) (fun model => {.text model.word})
      decode? :=
  Value.faithful_word .written fun model => by cases model <;> rfl

namespace Affixes

/-- The parts of affixes. -/
def parts (affixes : Affixes) : List Part :=
  [{ name := "remove_prefix", encodings := {.text affixes.removePrefix},
      isDefault := affixes.removePrefix = "" },
    { name := "remove_suffix", encodings := {.text affixes.removeSuffix},
      isDefault := affixes.removeSuffix = "" },
    { name := "add_prefix", encodings := {.text affixes.addPrefix},
      isDefault := affixes.addPrefix = "" },
    { name := "add_suffix", encodings := {.text affixes.addSuffix},
      isDefault := affixes.addSuffix = "" }]

/-- Affixes are read back from their parts. -/
theorem ofFields?_eq {affixes : Affixes} {fields : Fields} (holds : fields.Hold affixes.parts) :
    ofFields? fields = some affixes := by
  have removePrefix := holds.optional 0 rfl (Value.faithful_text.decode?_eq affixes.removePrefix) id
  have removeSuffix := holds.optional 1 rfl (Value.faithful_text.decode?_eq affixes.removeSuffix) id
  have addPrefix := holds.optional 2 rfl (Value.faithful_text.decode?_eq affixes.addPrefix) id
  have addSuffix := holds.optional 3 rfl (Value.faithful_text.decode?_eq affixes.addSuffix) id
  simp only [ofFields?, removePrefix, removeSuffix, addPrefix, addSuffix, Option.bind_eq_bind,
    Option.bind_some]

end Affixes

namespace NameConverter

/-- The encodings of a converter, whose affixes stand beside its case. -/
def encodings (converter : NameConverter) : Set Value :=
  Value.recordsOf
    ({ name := "case", encodings := {.text converter.nameCase.word},
        isDefault := converter.nameCase = .preserving } :: converter.affixes.parts)

/-- Converters are read back. -/
theorem faithful : Value.Faithful encode encodings decode? where
  encode_mem _ := Value.record_mem_recordsOf (.cons ⟨rfl, rfl⟩ (.cons ⟨rfl, rfl⟩ (.cons ⟨rfl, rfl⟩
    (.cons ⟨rfl, rfl⟩ (.cons ⟨rfl, rfl⟩ .nil))))) (by simp [Affixes.fields])
  decode?_eq converter := by
    rintro value ⟨fields, spelt, rfl⟩
    have nameCase := spelt.holds.optional 0 rfl
      (NameCase.faithful.decode?_eq converter.nameCase) id
    -- The affixes are what is left without the case.
    have affixes := spelt.tail (by simp [Affixes.parts])
    have settled := Value.settled_recordsOf (by simp [Affixes.parts]) _ ⟨_, affixes, rfl⟩
    unfold Value.IsSettled at settled
    dsimp only at settled
    simp only [decode?, Value.asFields?, Value.asRecord?_record, nameCase, settled, Affixes.decode?,
      Affixes.ofFields?_eq affixes.holds, Option.bind_eq_bind, Option.bind_some]

end NameConverter

namespace ConverterSet

/-- The encodings of converters. -/
def encodings (converters : ConverterSet) : Set Value :=
  Value.recordsOf
    [{ name := "all", encodings := converters.shared.encodings,
        isDefault := converters.shared = {} },
      { name := "module", encodings := converters.moduleName.encodings,
        isDefault := converters.moduleName = { nameCase := .camel } },
      { name := "type", encodings := converters.typeName.encodings,
        isDefault := converters.typeName = { nameCase := .camel } },
      { name := "ctor", encodings := converters.constructorName.encodings,
        isDefault := converters.constructorName = { nameCase := .camel } },
      { name := "var", encodings := converters.variableName.encodings,
        isDefault := converters.variableName = { nameCase := .camel } }]

/-- Converters are read back. -/
theorem faithful : Value.Faithful encode encodings decode? where
  encode_mem converters := by
    have each := NameConverter.faithful.encode_mem
    exact Value.record_mem_recordsOf (.cons ⟨rfl, each _⟩ (.cons ⟨rfl, each _⟩
      (.cons ⟨rfl, each _⟩ (.cons ⟨rfl, each _⟩ (.cons ⟨rfl, each _⟩ .nil))))) (by simp)
  decode?_eq converters := by
    rintro value ⟨fields, ⟨holds, -⟩, rfl⟩
    have each := NameConverter.faithful.decode?_eq
    have shared := holds.optional 0 rfl (each converters.shared) id
    have moduleName := holds.optional 1 rfl (each converters.moduleName) id
    have typeName := holds.optional 2 rfl (each converters.typeName) id
    have constructorName := holds.optional 3 rfl (each converters.constructorName) id
    have variableName := holds.optional 4 rfl (each converters.variableName) id
    simp only [decode?, Value.asFields?, Value.asRecord?_record, shared, moduleName, typeName,
      constructorName, variableName, Option.bind_eq_bind, Option.bind_some]

end ConverterSet

namespace NameOverrides

/-- The encodings of names that are given outright. -/
def encodings (overrides : NameOverrides) : Set Value :=
  let names (map : NameMap String) : Set Value := Value.mapsOf (fun name => {.text name}) map
  Value.recordsOf
    [{ name := "variables", encodings := names overrides.forVariables,
        isDefault := overrides.forVariables = .empty },
      { name := "types", encodings := names overrides.forTypes,
        isDefault := overrides.forTypes = .empty },
      { name := "ctors", encodings := names overrides.forConstructors,
        isDefault := overrides.forConstructors = .empty }]

/-- Names that are given outright are read back. -/
theorem faithful : Value.Faithful encode encodings decode? where
  encode_mem overrides := by
    have each := Value.faithful_text.map.encode_mem
    exact Value.record_mem_recordsOf (.cons ⟨rfl, each _⟩ (.cons ⟨rfl, each _⟩
      (.cons ⟨rfl, each _⟩ .nil))) (by simp)
  decode?_eq overrides := by
    rintro value ⟨fields, ⟨holds, -⟩, rfl⟩
    have each := Value.faithful_text.map.decode?_eq
    have forVariables := holds.optional 0 rfl (each overrides.forVariables) id
    have forTypes := holds.optional 1 rfl (each overrides.forTypes) id
    have forConstructors := holds.optional 2 rfl (each overrides.forConstructors) id
    simp only [decode?, Value.asFields?, Value.asRecord?_record, forVariables, forTypes,
      forConstructors,
      Option.bind_eq_bind, Option.bind_some]

end NameOverrides

namespace NamespacePolicy

/-- The encodings of namespaces. -/
def encodings (policy : NamespacePolicy) : Set Value :=
  Value.recordsOf
    [{ name := "variable", encodings := {.text policy.forVariables.word},
        isDefault := policy.forVariables = .flat },
      { name := "type", encodings := {.text policy.forTypes.word},
        isDefault := policy.forTypes = .flat },
      { name := "ctor", encodings := {.text policy.forConstructors.word},
        isDefault := policy.forConstructors = .flat }]

/-- Namespaces are read back. -/
theorem faithful : Value.Faithful encode encodings decode? where
  encode_mem _ := Value.record_mem_recordsOf
    (.cons ⟨rfl, rfl⟩ (.cons ⟨rfl, rfl⟩ (.cons ⟨rfl, rfl⟩ .nil))) (by simp)
  decode?_eq policy := by
    rintro value ⟨fields, ⟨holds, -⟩, rfl⟩
    have each := Namespace.faithful.decode?_eq
    have forVariables := holds.optional 0 rfl (each policy.forVariables) id
    have forTypes := holds.optional 1 rfl (each policy.forTypes) id
    have forConstructors := holds.optional 2 rfl (each policy.forConstructors) id
    simp only [decode?, Value.asFields?, Value.asRecord?_record, forVariables, forTypes,
      forConstructors,
      Option.bind_eq_bind, Option.bind_some]

end NamespacePolicy

namespace Configuration

/-- The parts of a configuration. -/
def parts (configuration : Configuration) : List Part :=
  let texts (names : List String) : Set Value := Value.listsOf (fun name => {.text name}) names
  [{ name := "library_name", encodings := {.text configuration.libraryName},
      isDefault := configuration.libraryName = "Library" },
    { name := "root_directory", encodings := {.text configuration.rootDirectory},
      isDefault := configuration.rootDirectory = "" },
    { name := "output_directory", encodings := {.text configuration.outputDirectory},
      isDefault := configuration.outputDirectory = "out" },
    { name := "file_names", encodings := texts configuration.fileNames,
      isDefault := configuration.fileNames = [] },
    { name := "header_group", encodings := texts configuration.headerGroup,
      isDefault := configuration.headerGroup = [] },
    { name := "compiler_options", encodings := texts configuration.compilerOptions,
      isDefault := configuration.compilerOptions = [] },
    { name := "allow_custom_fixed_size_int",
      encodings := {.boolean configuration.allowCustomFixedSizeInt},
      isDefault := configuration.allowCustomFixedSizeInt = false },
    { name := "assume_extern_c", encodings := {.boolean configuration.assumeExternC},
      isDefault := configuration.assumeExternC = false },
    { name := "warn_no_c_linkage", encodings := {.boolean configuration.warnNoCLinkage},
      isDefault := configuration.warnNoCLinkage = true },
    { name := "warn_no_external_formal_linkage",
      encodings := {.boolean configuration.warnNoExternalFormalLinkage},
      isDefault := configuration.warnNoExternalFormalLinkage = false },
    { name := "void_ptr_as_any_ptr", encodings := {.boolean configuration.voidPointerAsAny},
      isDefault := configuration.voidPointerAsAny = true },
    { name := "allow_rank_n_types", encodings := {.boolean configuration.allowRankNTypes},
      isDefault := configuration.allowRankNTypes = true },
    { name := "storable_instances", encodings := {.boolean configuration.storableInstances},
      isDefault := configuration.storableInstances = false },
    { name := "target", encodings := {.text configuration.model.word},
      isDefault := configuration.model = .lp64 },
    { name := "converters", encodings := configuration.converters.encodings,
      isDefault := configuration.converters = {} },
    { name := "file_converters",
      encodings := Value.mapsOf NameConverter.encodings configuration.fileConverters,
      isDefault := configuration.fileConverters = .empty },
    { name := "module_names",
      encodings := Value.mapsOf (fun name => {.text name}) configuration.moduleNames,
      isDefault := configuration.moduleNames = .empty },
    { name := "name_overrides",
      encodings := Value.mapsOf NameOverrides.encodings configuration.nameOverrides,
      isDefault := configuration.nameOverrides = .empty },
    { name := "namespaces", encodings := configuration.namespaces.encodings,
      isDefault := configuration.namespaces = .flat }]

/-- The encodings of a configuration. -/
def encodings (configuration : Configuration) : Set Value := Value.recordsOf configuration.parts

/-- The whole encoding of a configuration is one of its encodings. -/
theorem encode_mem (configuration : Configuration) :
    configuration.encode ∈ configuration.encodings := by
  have texts := Value.faithful_text.list.encode_mem
  have converters := ConverterSet.faithful.encode_mem configuration.converters
  have fileConverters := NameConverter.faithful.map.encode_mem configuration.fileConverters
  have moduleNames := Value.faithful_text.map.encode_mem configuration.moduleNames
  have nameOverrides := NameOverrides.faithful.map.encode_mem configuration.nameOverrides
  have namespaces := NamespacePolicy.faithful.encode_mem configuration.namespaces
  refine Value.record_mem_recordsOf ?pairs ?names
  case names => exact (by decide : fieldNames.Nodup)
  case pairs =>
    exact .cons ⟨rfl, rfl⟩ (.cons ⟨rfl, rfl⟩ (.cons ⟨rfl, rfl⟩ (.cons ⟨rfl, texts _⟩
      (.cons ⟨rfl, texts _⟩ (.cons ⟨rfl, texts _⟩ (.cons ⟨rfl, rfl⟩ (.cons ⟨rfl, rfl⟩
      (.cons ⟨rfl, rfl⟩ (.cons ⟨rfl, rfl⟩ (.cons ⟨rfl, rfl⟩ (.cons ⟨rfl, rfl⟩ (.cons ⟨rfl, rfl⟩
      (.cons ⟨rfl, rfl⟩ (.cons ⟨rfl, converters⟩ (.cons ⟨rfl, fileConverters⟩
      (.cons ⟨rfl, moduleNames⟩ (.cons ⟨rfl, nameOverrides⟩ (.cons ⟨rfl, namespaces⟩
      .nil))))))))))))))))))

/-- A configuration is read back from its parts. -/
theorem ofFields?_eq {configuration : Configuration} {fields : Fields}
    (holds : fields.Hold configuration.parts) : ofFields? fields = some configuration := by
  have text := Value.faithful_text.decode?_eq
  have texts := Value.faithful_text.list.decode?_eq
  have switch := Value.faithful_boolean.decode?_eq
  have libraryName := holds.optional 0 rfl (text configuration.libraryName) id
  have rootDirectory := holds.optional 1 rfl (text configuration.rootDirectory) id
  have outputDirectory := holds.optional 2 rfl (text configuration.outputDirectory) id
  have fileNames := holds.optional 3 rfl (texts configuration.fileNames) id
  have headerGroup := holds.optional 4 rfl (texts configuration.headerGroup) id
  have compilerOptions := holds.optional 5 rfl (texts configuration.compilerOptions) id
  have fixedSize := holds.optional 6 rfl (switch configuration.allowCustomFixedSizeInt) id
  have externC := holds.optional 7 rfl (switch configuration.assumeExternC) id
  have cLinkage := holds.optional 8 rfl (switch configuration.warnNoCLinkage) id
  have formalLinkage := holds.optional 9 rfl
    (switch configuration.warnNoExternalFormalLinkage) id
  have anyPointer := holds.optional 10 rfl (switch configuration.voidPointerAsAny) id
  have rankN := holds.optional 11 rfl (switch configuration.allowRankNTypes) id
  have storable := holds.optional 12 rfl (switch configuration.storableInstances) id
  have model := holds.optional 13 rfl (DataModel.faithful.decode?_eq configuration.model) id
  have converters := holds.optional 14 rfl
    (ConverterSet.faithful.decode?_eq configuration.converters) id
  have fileConverters := holds.optional 15 rfl
    (NameConverter.faithful.map.decode?_eq configuration.fileConverters) id
  have moduleNames := holds.optional 16 rfl
    (Value.faithful_text.map.decode?_eq configuration.moduleNames) id
  have nameOverrides := holds.optional 17 rfl
    (NameOverrides.faithful.map.decode?_eq configuration.nameOverrides) id
  have namespaces := holds.optional 18 rfl
    (NamespacePolicy.faithful.decode?_eq configuration.namespaces) id
  simp only [ofFields?, libraryName, rootDirectory, outputDirectory, fileNames, headerGroup,
    compilerOptions, fixedSize, externC, cLinkage, formalLinkage, anyPointer, rankN, storable, model,
    converters, fileConverters, moduleNames, nameOverrides, namespaces, Option.bind_eq_bind,
    Option.bind_some]

/-- Configurations are read back. -/
theorem faithful : Value.Faithful encode encodings decode? where
  encode_mem := encode_mem
  decode?_eq configuration := by
    rintro value ⟨fields, spelt, rfl⟩
    have known : (fields.all fun field => fieldNames.contains field.1) = true := by
      refine List.all_eq_true.mpr fun field isField => ?_
      obtain ⟨part, isPart, named⟩ := spelt.isPart field isField
      have names : fieldNames = configuration.parts.map Part.name := rfl
      rw [names, ← named]
      exact List.contains_iff_mem.mpr (List.mem_map_of_mem isPart)
    simp only [decode?, Value.asFields?, Value.asRecord?_record, Option.bind_eq_bind,
      Option.bind_some, known, if_true, ofFields?_eq spelt.holds]

end Configuration

end ForeignBindings
