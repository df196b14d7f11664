import ForeignBindings.Proofs.Format.Configurations
import ForeignBindings.Proofs.Format.Declarations

/-!
# Reading undoes writing

What is written is read back, whole or with defaults left out, in every data format of the
library: `decoding_undoes_encoding`.
-/

namespace ForeignBindings

/-- Reading undoes writing. Whatever is encoded is decoded to itself, and so is what is left of
the encoding when any fields are left out of the objects in it, at any depth, that are what an
absent field stands for in its place. The order of the fields does not matter. -/
theorem decoding_undoes_encoding :
    (∀ contents : Contents, Contents.decode? contents.encode = some contents ∧
      contents.encode ∈ contents.encodings ∧
      ∀ value ∈ contents.encodings, Contents.decode? value = some contents) ∧
    (∀ type : CType, CType.decode? type.encode = some type ∧
      type.encode ∈ type.encodings ∧
      ∀ value ∈ type.encodings, CType.decode? value = some type) ∧
    (∀ tag : Tag, Tag.decode? tag.encode = some tag ∧
      tag.encode ∈ tag.encodings ∧
      ∀ value ∈ tag.encodings, Tag.decode? value = some tag) ∧
    (∀ unit : SourceUnit, SourceUnit.decode? unit.encode = some unit ∧
      unit.encode ∈ unit.encodings ∧
      ∀ value ∈ unit.encodings, SourceUnit.decode? value = some unit) ∧
    (∀ declaration : Declaration, Declaration.decode? declaration.encode = some declaration ∧
      declaration.encode ∈ declaration.encodings ∧
      ∀ value ∈ declaration.encodings, Declaration.decode? value = some declaration) ∧
    (∀ type : SourceType, SourceType.decode? type.encode = some type ∧
      type.encode ∈ type.encodings ∧
      ∀ value ∈ type.encodings, SourceType.decode? value = some type) ∧
    ∀ configuration : Configuration,
      Configuration.decode? configuration.encode = some configuration ∧
      configuration.encode ∈ configuration.encodings ∧
      ∀ value ∈ configuration.encodings, Configuration.decode? value = some configuration :=
  ⟨Contents.faithful.undoes, CType.faithful.undoes, Tag.faithful.undoes, SourceUnit.faithful.undoes,
    Declaration.faithful.undoes, SourceType.faithful.undoes, Configuration.faithful.undoes⟩

/-- A declaration without linkage, origin and location. -/
def sparseDeclaration : Value :=
  .record [("name", .text "count"), ("kind", .record [("decl", .text "var"),
    ("type", .record [("kind", .text "tag")])])]

/-- A configuration that says only how names of types begin. -/
def sparseConfiguration : Value :=
  .record [("converters", .record [("type", .record [("add_prefix", .text "T")])])]

/-- A declaration without linkage, origin and location is one of the main file with C linkage, and
a configuration that says only how names of types begin leaves all else as it is by default, but
not the case of these names. -/
theorem sparse_values_decoded :
    Declaration.decode? sparseDeclaration =
      some { name := "count", kind := .variable (.tag "") } ∧
    Configuration.decode? sparseConfiguration =
      some { converters := { typeName := { affixes := { addPrefix := "T" } } } } := by
  obtain ⟨-, -, -, -, declarations, -, configurations⟩ := decoding_undoes_encoding
  have type : Value.record [("kind", .text "tag")] ∈ (SourceType.tag "").encodings :=
    ⟨_, ⟨.cons (.kept rfl) (.cons (.leftOut rfl) .nil), by simp⟩, rfl⟩
  have kind : Value.record [("decl", .text "var"), ("type", .record [("kind", .text "tag")])] ∈
      (DeclarationKind.variable (.tag "")).encodings :=
    ⟨_, ⟨.cons (.kept rfl) (.cons (.kept type) .nil), by simp⟩, rfl⟩
  have typeName : Value.record [("add_prefix", .text "T")] ∈
      NameConverter.encodings { affixes := { addPrefix := "T" } } :=
    ⟨_, ⟨.cons (.leftOut rfl) (.cons (.leftOut rfl) (.cons (.leftOut rfl) (.cons (.kept rfl)
      (.cons (.leftOut rfl) .nil)))), by simp [Affixes.parts]⟩, rfl⟩
  have converters : Value.record [("type", .record [("add_prefix", .text "T")])] ∈
      ConverterSet.encodings { typeName := { affixes := { addPrefix := "T" } } } :=
    ⟨_, ⟨.cons (.leftOut rfl) (.cons (.leftOut rfl) (.cons (.kept typeName) (.cons (.leftOut rfl)
      (.cons (.leftOut rfl) .nil)))), by simp⟩, rfl⟩
  refine ⟨(declarations _).2.2 _ ⟨_, ⟨?declared, by simp⟩, rfl⟩,
    (configurations _).2.2 _ ⟨_, ⟨?configured, by simp [Configuration.parts]⟩, rfl⟩⟩
  case declared =>
    exact .cons (.kept rfl) (.cons (.kept kind) (.cons (.leftOut rfl) (.cons (.leftOut rfl)
      (.cons (.leftOut rfl) .nil))))
  case configured =>
    -- All parts but the converters are left out.
    repeat first | refine .cons (.leftOut rfl) ?_ | refine .cons (.kept converters) ?_
    exact .nil

end ForeignBindings
