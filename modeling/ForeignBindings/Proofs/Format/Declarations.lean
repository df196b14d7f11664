import ForeignBindings.Format.Declaration
import ForeignBindings.Proofs.Format.Contents

/-!
# The format of source units

Declarations and their types are read back from their encodings. Names, locations, linkages,
origins and lists may be left out at any depth where they are what an absent field stands for.
The name of a parameter may be left out, that of a field may not.
-/

namespace ForeignBindings

/-- Calling conventions are read back in any form. -/
theorem CallConvention.faithful (form : Value.Form) :
    Value.Faithful (fun convention : CallConvention => .text convention.word)
      (fun convention => {.text convention.word}) (ofForm? form) :=
  Value.faithful_word form fun convention => by cases convention <;> rfl

/-- Origins are read back. -/
theorem Origin.faithful :
    Value.Faithful (fun origin : Origin => .text origin.word) (fun origin => {.text origin.word})
      decode? :=
  Value.faithful_word .written fun origin => by cases origin <;> rfl

namespace Location

/-- The encodings of a location. -/
def encodings (location : Location) : Set Value :=
  Value.recordsOf
    [{ name := "file", encodings := {.text location.file}, isDefault := location.file = "" },
      { name := "line", encodings := {.natural location.line.toNat},
        isDefault := location.line = 0 },
      { name := "column", encodings := {.natural location.column.toNat},
        isDefault := location.column = 0 }]

@[simp] theorem settled_encodings (location : Location) : Value.Settled location.encodings :=
  Value.settled_recordsOf (by simp)

/-- Locations are read back. -/
theorem faithful : Value.Faithful encode encodings decode? where
  encode_mem _ := Value.record_mem_recordsOf
    (.cons ⟨rfl, rfl⟩ (.cons ⟨rfl, rfl⟩ (.cons ⟨rfl, rfl⟩ .nil))) (by simp)
  decode?_eq location := by
    rintro value ⟨fields, ⟨holds, -⟩, rfl⟩
    have file := holds.optional 0 rfl (Value.faithful_text.decode?_eq location.file) id
    have line := holds.optional 1 rfl (Value.faithful_natural.decode?_eq location.line) id
    have column := holds.optional 2 rfl (Value.faithful_natural.decode?_eq location.column) id
    simp only [decode?, Value.asRecord?_record, file, line, column, Option.bind_eq_bind,
      Option.bind_some]

end Location

namespace SourceType

mutual

/-- The encodings of a type. -/
def encodings : SourceType → Set Value
  | builtin leaf =>
    Value.taggedOf "kind" "builtin" [{ name := "builtin", encodings := {leaf.encode} }]
  | pointer pointee =>
    Value.taggedOf "kind" "pointer" [{ name := "pointee", encodings := pointee.encodings }]
  | lvalueReference referee =>
    Value.taggedOf "kind" "lvalue_reference"
      [{ name := "referee", encodings := referee.encodings }]
  | rvalueReference referee =>
    Value.taggedOf "kind" "rvalue_reference"
      [{ name := "referee", encodings := referee.encodings }]
  | typedef name qualifiedName inSystemHeader underlying =>
    Value.taggedOf "kind" "typedef"
      [{ name := "name", encodings := {.text name} },
        { name := "qualified_name", encodings := {.text qualifiedName},
          isDefault := qualifiedName = "" },
        { name := "in_system_header", encodings := {.boolean inSystemHeader},
          isDefault := inSystemHeader = false },
        { name := "underlying", encodings := underlying.encodings }]
  | templateSpecialization printedName =>
    Value.taggedOf "kind" "template_specialization"
      [{ name := "printed_name", encodings := {.text printedName} }]
  | tag name =>
    Value.taggedOf "kind" "tag"
      [{ name := "name", encodings := {.text name}, isDefault := name = "" }]
  | prototype convention result parameters =>
    Value.taggedOf "kind" "function_proto"
      [{ name := "call_conv", encodings := {.text convention.word},
          isDefault := convention = .c },
        { name := "return_type", encodings := result.encodings },
        { name := "params", encodings := Value.sequence '' encodingsAll parameters,
          isDefault := parameters = [] }]
  | other description =>
    Value.taggedOf "kind" "other"
      [{ name := "description", encodings := {.text description} }]
termination_by structural type => type

/-- The encodings of a list of types. -/
def encodingsAll : List SourceType → Set (List Value)
  | [] => {[]}
  | type :: rest => Set.image2 List.cons type.encodings (encodingsAll rest)
termination_by structural types => types

end

/-- The encodings of a list of types encode its items one by one. -/
@[simp] theorem image_encodingsAll (types : List SourceType) :
    Value.sequence '' encodingsAll types = Value.listsOf encodings types :=
  Value.image_sequence_eq_listsOf encodingsAll rfl (fun _ _ => rfl) types

/-- The types of a list are encoded one by one. -/
theorem encodeAll_eq_map (types : List SourceType) : encodeAll types = types.map encode := by
  induction types with
  | nil => rfl
  | cons type rest inductionHypothesis => rw [encodeAll, inductionHypothesis, List.map_cons]

/-- The whole encoding of a type is one of its encodings. -/
theorem encode_mem (type : SourceType) : type.encode ∈ type.encodings := by
  induction type using induction with
  | builtin leaf | templateSpecialization name | tag name | other name =>
    exact Value.record_mem_recordsOf (.cons ⟨rfl, rfl⟩ (.cons ⟨rfl, rfl⟩ .nil)) (by simp)
  | pointer inner ofInner | lvalueReference inner ofInner | rvalueReference inner ofInner =>
    exact Value.record_mem_recordsOf (.cons ⟨rfl, rfl⟩ (.cons ⟨rfl, ofInner⟩ .nil)) (by simp)
  | typedef name qualifiedName inSystemHeader underlying ofUnderlying =>
    exact Value.record_mem_recordsOf (.cons ⟨rfl, rfl⟩ (.cons ⟨rfl, rfl⟩ (.cons ⟨rfl, rfl⟩
      (.cons ⟨rfl, rfl⟩ (.cons ⟨rfl, ofUnderlying⟩ .nil))))) (by simp)
  | prototype convention result parameters ofResult ofParameters =>
    have all : .sequence (encodeAll parameters) ∈ Value.sequence '' encodingsAll parameters := by
      rw [image_encodingsAll, encodeAll_eq_map]
      exact Value.ofList_mem_listsOf ofParameters
    exact Value.record_mem_recordsOf (.cons ⟨rfl, rfl⟩ (.cons ⟨rfl, rfl⟩ (.cons ⟨rfl, ofResult⟩
      (.cons ⟨rfl, all⟩ .nil)))) (by simp)

/-- The encodings of a type are settled. -/
@[simp] theorem settled_encodings (type : SourceType) : Value.Settled type.encodings := by
  induction type using induction with
  | builtin leaf | templateSpecialization name | tag name | other name =>
    exact Value.settled_taggedOf (by simp)
  | pointer inner ofInner | lvalueReference inner ofInner | rvalueReference inner ofInner =>
    exact Value.settled_taggedOf (by simp [ofInner])
  | typedef name qualifiedName inSystemHeader underlying ofUnderlying =>
    exact Value.settled_taggedOf (by simp [ofUnderlying])
  | prototype convention result parameters ofResult ofParameters =>
    exact Value.settled_taggedOf (by simp [ofResult, Value.settled_listsOf ofParameters])

/-- A type is read back in any form. -/
theorem ofForm?_eq (form : Value.Form) (type : SourceType) :
    ∀ value ∈ type.encodings, ofForm? form value = some type := by
  induction type using induction generalizing form with
  | builtin leaf =>
    rintro value ⟨fields, ⟨holds, -⟩, rfl⟩
    have read := holds.required 1 rfl
      ((Value.faithful_single (Builtin.ofForm?_encode .settled)).decode?_eq leaf)
    rw [ofForm?, Value.readTagged_record holds rfl]
    simp only [read, Option.map_some]
  | pointer inner ofInner | lvalueReference inner ofInner | rvalueReference inner ofInner =>
    rintro value ⟨fields, ⟨holds, -⟩, rfl⟩
    rw [ofForm?, Value.readTagged_record holds rfl]
    dsimp only
    rw [holds.requiredPart 1 rfl fun value encodes _ => ofInner .settled value encodes]
    rfl
  | typedef name qualifiedName inSystemHeader underlying ofUnderlying =>
    rintro value ⟨fields, ⟨holds, -⟩, rfl⟩
    have named := holds.required 1 rfl (Value.faithful_text.decode?_eq name)
    have qualified := holds.optional 2 rfl (Value.faithful_text.decode?_eq qualifiedName) id
    have system := holds.optional 3 rfl (Value.faithful_boolean.decode?_eq inSystemHeader) id
    rw [ofForm?, Value.readTagged_record holds rfl]
    simp only [named, qualified, system, Option.bind_eq_bind, Option.bind_some]
    rw [holds.requiredPart 4 rfl fun value encodes _ => ofUnderlying .settled value encodes]
    rfl
  | templateSpecialization printedName =>
    rintro value ⟨fields, ⟨holds, -⟩, rfl⟩
    have read := holds.required 1 rfl (Value.faithful_text.decode?_eq printedName)
    rw [ofForm?, Value.readTagged_record holds rfl]
    simp only [read, Option.map_some]
  | tag name =>
    rintro value ⟨fields, ⟨holds, -⟩, rfl⟩
    have read := holds.optional 1 rfl (Value.faithful_text.decode?_eq name) id
    rw [ofForm?, Value.readTagged_record holds rfl]
    simp only [read, Option.map_some]
  | prototype convention result parameters ofResult ofParameters =>
    rintro value ⟨fields, ⟨holds, -⟩, rfl⟩
    have called := holds.optional 1 rfl
      ((CallConvention.faithful .settled).decode?_eq convention) id
    rw [ofForm?, Value.readTagged_record holds rfl]
    simp only [called, Option.bind_eq_bind, Option.bind_some]
    rw [holds.requiredPart 2 rfl fun value encodes _ => ofResult .settled value encodes,
      Option.bind_some, holds.optionalPart 3 rfl _ id]
    · rfl
    rw [image_encodingsAll]
    rintro value ⟨items, areItems, rfl⟩ member
    have pairs := (List.forall₂_and_left _ _).mpr ⟨ofParameters, areItems⟩
    refine Value.asPartsOf?_sequence (pairs.imp ?_)
    rintro parameter item ⟨ofType, encodes⟩ -
    exact ofType .settled item encodes
  | other description =>
    rintro value ⟨fields, ⟨holds, -⟩, rfl⟩
    have read := holds.required 1 rfl (Value.faithful_text.decode?_eq description)
    rw [ofForm?, Value.readTagged_record holds rfl]
    simp only [read, Option.map_some]

/-- Types are read back. -/
theorem faithful : Value.Faithful encode encodings decode? where
  encode_mem := encode_mem
  decode?_eq type value member := by
    unfold decode?
    rw [type.settled_encodings value member, Option.bind_eq_bind, Option.bind_some]
    exact ofForm?_eq .written type value member

end SourceType

namespace Member

/-- The encodings of what parameters and fields have in common, given when the name may be left
out. -/
def encodingsWith (nameless : Prop) (owner : Member) : Set Value :=
  Value.recordsOf
    [{ name := "name", encodings := {.text owner.name}, isDefault := nameless },
      { name := "type", encodings := owner.type.encodings },
      { name := "location", encodings := owner.location.encodings,
        isDefault := owner.location = .unknown }]

/-- The encodings of a parameter, which may lack a name. -/
def parameterEncodings (parameter : Member) : Set Value :=
  parameter.encodingsWith (parameter.name = "")

/-- The encodings of a field. -/
def fieldEncodings (field : Member) : Set Value := field.encodingsWith False

/-- The whole encoding is always allowed. -/
theorem encode_mem (nameless : Prop) (owner : Member) :
    owner.encode ∈ owner.encodingsWith nameless :=
  Value.record_mem_recordsOf (.cons ⟨rfl, rfl⟩ (.cons ⟨rfl, owner.type.encode_mem⟩
    (.cons ⟨rfl, Location.faithful.encode_mem owner.location⟩ .nil))) (by simp)

theorem settled_encodingsWith (nameless : Prop) (owner : Member) :
    Value.Settled (owner.encodingsWith nameless) :=
  Value.settled_recordsOf (by simp)

@[simp] theorem settled_parameterEncodings (parameter : Member) :
    Value.Settled parameter.parameterEncodings :=
  parameter.settled_encodingsWith _

@[simp] theorem settled_fieldEncodings (field : Member) : Value.Settled field.fieldEncodings :=
  field.settled_encodingsWith _

/-- Parameters are read back. -/
theorem faithful_parameter : Value.Faithful encode parameterEncodings parameterOf? where
  encode_mem parameter := parameter.encode_mem _
  decode?_eq parameter := by
    rintro value ⟨fields, ⟨holds, -⟩, rfl⟩
    have name := holds.optional 0 rfl (Value.faithful_text.decode?_eq parameter.name) id
    have type := holds.required 1 rfl (parameter.type.ofForm?_eq .settled)
    have location := holds.optional 2 rfl (Location.faithful.decode?_eq parameter.location) id
    simp only [parameterOf?, ofName?, Value.asRecord?_record, name, type, location,
      Option.bind_eq_bind, Option.bind_some]

/-- Fields are read back. -/
theorem faithful_field : Value.Faithful encode fieldEncodings fieldOf? where
  encode_mem field := field.encode_mem _
  decode?_eq field := by
    rintro value ⟨fields, ⟨holds, -⟩, rfl⟩
    have name := holds.required 0 rfl (Value.faithful_text.decode?_eq field.name)
    have type := holds.required 1 rfl (field.type.ofForm?_eq .settled)
    have location := holds.optional 2 rfl (Location.faithful.decode?_eq field.location) id
    simp only [fieldOf?, ofName?, Value.asRecord?_record, name, type, location,
      Option.bind_eq_bind, Option.bind_some]

end Member

namespace TypedefTarget

/-- The encodings of what a typedef names. -/
def encodings : TypedefTarget → Set Value
  | enumeration name integerType enumerators =>
    Value.taggedOf "target" "enum"
      [{ name := "name", encodings := {.text name}, isDefault := name = "" },
        { name := "integer_type", encodings := integerType.encodings },
        { name := "enumerators", encodings := Value.listsOf Enumerator.encodings enumerators,
          isDefault := enumerators = [] }]
  | .structure name fields =>
    Value.taggedOf "target" "struct"
      [{ name := "name", encodings := {.text name}, isDefault := name = "" },
        { name := "fields", encodings := Value.listsOf Member.fieldEncodings fields,
          isDefault := fields = [] }]
  | type named => Value.taggedOf "target" "type" [{ name := "type", encodings := named.encodings }]

@[simp] theorem settled_encodings (target : TypedefTarget) : Value.Settled target.encodings := by
  cases target <;> exact Value.settled_taggedOf (by simp)

/-- What a typedef names is read back. -/
theorem faithful : Value.Faithful encode encodings ofSettled? where
  encode_mem target := by
    cases target with
    | enumeration name integerType enumerators =>
      exact Value.record_mem_recordsOf
        (.cons ⟨rfl, rfl⟩ (.cons ⟨rfl, rfl⟩ (.cons ⟨rfl, integerType.encode_mem⟩
          (.cons ⟨rfl, Enumerator.faithful.list.encode_mem enumerators⟩ .nil)))) (by simp)
    | «structure» name fields =>
      exact Value.record_mem_recordsOf (.cons ⟨rfl, rfl⟩ (.cons ⟨rfl, rfl⟩
        (.cons ⟨rfl, Member.faithful_field.list.encode_mem fields⟩ .nil))) (by simp)
    | type named =>
      exact Value.record_mem_recordsOf
        (.cons ⟨rfl, rfl⟩ (.cons ⟨rfl, named.encode_mem⟩ .nil)) (by simp)
  decode?_eq target := by
    cases target with
    | enumeration name integerType enumerators =>
      rintro value ⟨fields, ⟨holds, -⟩, rfl⟩
      have named := holds.optional 1 rfl (Value.faithful_text.decode?_eq name) id
      have type := holds.required 2 rfl (integerType.ofForm?_eq .settled)
      have listed := holds.optional 3 rfl (Enumerator.faithful.list.decode?_eq enumerators) id
      rw [ofSettled?, Value.asTagged?_record .settled holds rfl]
      simp only [Option.bind_eq_bind, Option.bind_some, named, type, listed]
    | «structure» name members =>
      rintro value ⟨fields, ⟨holds, -⟩, rfl⟩
      have named := holds.optional 1 rfl (Value.faithful_text.decode?_eq name) id
      have listed := holds.optional 2 rfl (Member.faithful_field.list.decode?_eq members) id
      rw [ofSettled?, Value.asTagged?_record .settled holds rfl]
      simp only [Option.bind_eq_bind, Option.bind_some, named, listed]
    | type named =>
      rintro value ⟨fields, ⟨holds, -⟩, rfl⟩
      have read := holds.required 1 rfl (named.ofForm?_eq .settled)
      rw [ofSettled?, Value.asTagged?_record .settled holds rfl]
      simp only [Option.bind_eq_bind, Option.bind_some, read, Option.map_some]

end TypedefTarget

namespace DeclarationKind

/-- The encodings of the part of a declaration that depends on its kind. -/
def encodings : DeclarationKind → Set Value
  | .variable type => Value.taggedOf "decl" "var" [{ name := "type", encodings := type.encodings }]
  | function result parameters =>
    Value.taggedOf "decl" "function"
      [{ name := "return_type", encodings := result.encodings },
        { name := "params", encodings := Value.listsOf Member.parameterEncodings parameters,
          isDefault := parameters = [] }]
  | enumeration integerType enumerators =>
    Value.taggedOf "decl" "enum"
      [{ name := "integer_type", encodings := integerType.encodings },
        { name := "enumerators", encodings := Value.listsOf Enumerator.encodings enumerators,
          isDefault := enumerators = [] }]
  | .structure fields =>
    Value.taggedOf "decl" "struct"
      [{ name := "fields", encodings := Value.listsOf Member.fieldEncodings fields,
          isDefault := fields = [] }]
  | typedef underlying =>
    Value.taggedOf "decl" "typedef" [{ name := "underlying", encodings := underlying.encodings }]

theorem settled_encodings (kind : DeclarationKind) : Value.Settled kind.encodings := by
  cases kind <;> exact Value.settled_taggedOf (by simp)

/-- The part of a declaration that depends on its kind is read back. -/
theorem faithful : Value.Faithful encode encodings decode? where
  encode_mem kind := by
    cases kind with
    | «variable» type =>
      exact Value.record_mem_recordsOf
        (.cons ⟨rfl, rfl⟩ (.cons ⟨rfl, type.encode_mem⟩ .nil)) (by simp)
    | function result parameters =>
      exact Value.record_mem_recordsOf (.cons ⟨rfl, rfl⟩ (.cons ⟨rfl, result.encode_mem⟩
        (.cons ⟨rfl, Member.faithful_parameter.list.encode_mem parameters⟩ .nil))) (by simp)
    | enumeration integerType enumerators =>
      exact Value.record_mem_recordsOf (.cons ⟨rfl, rfl⟩ (.cons ⟨rfl, integerType.encode_mem⟩
        (.cons ⟨rfl, Enumerator.faithful.list.encode_mem enumerators⟩ .nil))) (by simp)
    | «structure» fields =>
      exact Value.record_mem_recordsOf (.cons ⟨rfl, rfl⟩
        (.cons ⟨rfl, Member.faithful_field.list.encode_mem fields⟩ .nil)) (by simp)
    | typedef underlying =>
      exact Value.record_mem_recordsOf (.cons ⟨rfl, rfl⟩
        (.cons ⟨rfl, TypedefTarget.faithful.encode_mem underlying⟩ .nil)) (by simp)
  decode?_eq kind value member := by
    unfold decode?
    rw [kind.settled_encodings value member, Option.bind_eq_bind, Option.bind_some]
    cases kind with
    | «variable» type =>
      obtain ⟨fields, ⟨holds, -⟩, rfl⟩ := member
      have read := holds.required 1 rfl (type.ofForm?_eq .settled)
      rw [Value.asTagged?_record .written holds rfl]
      simp only [Option.bind_eq_bind, Option.bind_some, read, Option.map_some]
    | function result parameters =>
      obtain ⟨fields, ⟨holds, -⟩, rfl⟩ := member
      have type := holds.required 1 rfl (result.ofForm?_eq .settled)
      have listed := holds.optional 2 rfl (Member.faithful_parameter.list.decode?_eq parameters) id
      rw [Value.asTagged?_record .written holds rfl]
      simp only [Option.bind_eq_bind, Option.bind_some, type, listed]
    | enumeration integerType enumerators =>
      obtain ⟨fields, ⟨holds, -⟩, rfl⟩ := member
      have type := holds.required 1 rfl (integerType.ofForm?_eq .settled)
      have listed := holds.optional 2 rfl (Enumerator.faithful.list.decode?_eq enumerators) id
      rw [Value.asTagged?_record .written holds rfl]
      simp only [Option.bind_eq_bind, Option.bind_some, type, listed]
    | «structure» members =>
      obtain ⟨fields, ⟨holds, -⟩, rfl⟩ := member
      have read := holds.optional 1 rfl (Member.faithful_field.list.decode?_eq members) id
      rw [Value.asTagged?_record .written holds rfl]
      simp only [Option.bind_eq_bind, Option.bind_some, read, Option.map_some]
    | typedef underlying =>
      obtain ⟨fields, ⟨holds, -⟩, rfl⟩ := member
      have read := holds.required 1 rfl (TypedefTarget.faithful.decode?_eq underlying)
      rw [Value.asTagged?_record .written holds rfl]
      simp only [Option.bind_eq_bind, Option.bind_some, read, Option.map_some]

end DeclarationKind

namespace Linkage

/-- The encodings of a linkage. -/
def encodings (linkage : Linkage) : Set Value :=
  Value.recordsOf
    [{ name := "external_formal", encodings := {.boolean linkage.externalFormal},
        isDefault := linkage.externalFormal = true },
      { name := "c_language", encodings := {.boolean linkage.cLanguage},
        isDefault := linkage.cLanguage = true }]

/-- Linkages are read back. -/
theorem faithful : Value.Faithful encode encodings decode? where
  encode_mem _ := Value.record_mem_recordsOf (.cons ⟨rfl, rfl⟩ (.cons ⟨rfl, rfl⟩ .nil)) (by simp)
  decode?_eq linkage := by
    rintro value ⟨fields, ⟨holds, -⟩, rfl⟩
    have formal := holds.optional 0 rfl
      (Value.faithful_boolean.decode?_eq linkage.externalFormal) id
    have language := holds.optional 1 rfl (Value.faithful_boolean.decode?_eq linkage.cLanguage) id
    simp only [decode?, Value.asFields?, Value.asRecord?_record, formal, language,
      Option.bind_eq_bind, Option.bind_some]

end Linkage

namespace Declaration

/-- The encodings of a declaration. -/
def encodings (declaration : Declaration) : Set Value :=
  Value.recordsOf
    [{ name := "name", encodings := {.text declaration.name}, isDefault := declaration.name = "" },
      { name := "kind", encodings := declaration.kind.encodings },
      { name := "linkage", encodings := declaration.linkage.encodings,
        isDefault := declaration.linkage = {} },
      { name := "origin", encodings := {.text declaration.origin.word},
        isDefault := declaration.origin = .mainFile },
      { name := "location", encodings := declaration.location.encodings,
        isDefault := declaration.location = .unknown }]

/-- Declarations are read back. -/
theorem faithful : Value.Faithful encode encodings decode? where
  encode_mem declaration := by
    refine Value.record_mem_recordsOf (.cons ⟨rfl, rfl⟩ (.cons ⟨rfl, ?kind⟩ (.cons ⟨rfl, ?linkage⟩
      (.cons ⟨rfl, rfl⟩ (.cons ⟨rfl, ?location⟩ .nil))))) (by simp)
    case kind => exact DeclarationKind.faithful.encode_mem declaration.kind
    case linkage => exact Linkage.faithful.encode_mem declaration.linkage
    case location => exact Location.faithful.encode_mem declaration.location
  decode?_eq declaration := by
    rintro value ⟨fields, ⟨holds, -⟩, rfl⟩
    have name := holds.optional 0 rfl (Value.faithful_text.decode?_eq declaration.name) id
    have kind := holds.required 1 rfl (DeclarationKind.faithful.decode?_eq declaration.kind)
    have linkage := holds.optional 2 rfl (Linkage.faithful.decode?_eq declaration.linkage) id
    have origin := holds.optional 3 rfl (Origin.faithful.decode?_eq declaration.origin) id
    have location := holds.optional 4 rfl (Location.faithful.decode?_eq declaration.location) id
    simp only [decode?, Value.asFields?, Value.asRecord?_record, name, kind, linkage, origin,
      location, Option.bind_eq_bind, Option.bind_some]

end Declaration

namespace SourceUnit

/-- The encodings of a source unit. -/
def encodings (unit : SourceUnit) : Set Value :=
  Value.recordsOf
    [{ name := "file", encodings := {.text unit.file}, isDefault := unit.file = "" },
      { name := "decls", encodings := Value.listsOf Declaration.encodings unit.declarations,
        isDefault := unit.declarations = [] }]

/-- Source units are read back. -/
theorem faithful : Value.Faithful encode encodings decode? where
  encode_mem unit := Value.record_mem_recordsOf (.cons ⟨rfl, rfl⟩
    (.cons ⟨rfl, Declaration.faithful.list.encode_mem unit.declarations⟩ .nil)) (by simp)
  decode?_eq unit := by
    rintro value ⟨fields, ⟨holds, -⟩, rfl⟩
    have file := holds.optional 0 rfl (Value.faithful_text.decode?_eq unit.file) id
    have listed := holds.optional 1 rfl
      (Declaration.faithful.list.decode?_eq unit.declarations) id
    simp only [decode?, Value.asFields?, Value.asRecord?_record, file, listed, Option.bind_eq_bind,
      Option.bind_some]

end SourceUnit

end ForeignBindings
