import ForeignBindings.Declaration
import ForeignBindings.Format.Contents

/-!
# Declarations as values

The data format of source units, which is the one that front ends dump. A
field with a default may be absent. What kind of declaration or type a mapping is
decides how its other entries are read, so these are settled before.
-/

namespace ForeignBindings

namespace Location

/-- A location as a value. -/
def encode (location : Location) : Value :=
  .record [("file", .text location.file), ("line", .natural location.line.toNat),
    ("column", .natural location.column.toNat)]

/-- Reads a location. Line and column have to fit into 32 bits. -/
def decode? (value : Value) : Option Location := do
  let fields ← value.asRecord? ["file", "line", "column"]
  let file ← fields.optional "file" "" Value.asText?
  let line ← fields.optional "line" 0 Value.asUInt32?
  let column ← fields.optional "column" 0 Value.asUInt32?
  some { file, line, column }

end Location

/-- Reads a calling convention in a form. -/
def CallConvention.ofForm? (form : Value.Form) (value : Value) : Option CallConvention :=
  value.asOneOf? form all word

/-- Reads a calling convention. -/
def CallConvention.decode? (value : Value) : Option CallConvention := ofForm? .written value

/-- Reads an origin. -/
def Origin.decode? (value : Value) : Option Origin := value.asOneOf? .written all word

namespace SourceType

mutual

/-- A type as a value. -/
def encode : SourceType → Value
  | builtin leaf => .record [("kind", .text "builtin"), ("builtin", leaf.encode)]
  | pointer pointee => .record [("kind", .text "pointer"), ("pointee", pointee.encode)]
  | lvalueReference referee =>
    .record [("kind", .text "lvalue_reference"), ("referee", referee.encode)]
  | rvalueReference referee =>
    .record [("kind", .text "rvalue_reference"), ("referee", referee.encode)]
  | typedef name qualifiedName inSystemHeader underlying =>
    .record [("kind", .text "typedef"), ("name", .text name),
      ("qualified_name", .text qualifiedName), ("in_system_header", .boolean inSystemHeader),
      ("underlying", underlying.encode)]
  | templateSpecialization printedName =>
    .record [("kind", .text "template_specialization"), ("printed_name", .text printedName)]
  | tag name => .record [("kind", .text "tag"), ("name", .text name)]
  | prototype convention result parameters =>
    .record [("kind", .text "function_proto"), ("call_conv", .text convention.word),
      ("return_type", result.encode), ("params", .sequence (encodeAll parameters))]
  | other description =>
    .record [("kind", .text "other"), ("description", .text description)]
termination_by structural type => type

/-- Types as values. -/
def encodeAll : List SourceType → List Value
  | [] => []
  | type :: rest => type.encode :: encodeAll rest
termination_by structural types => types

end

/-- The kinds of types with the names of their fields. -/
def kinds : List (String × List String) :=
  [("builtin", ["builtin"]), ("pointer", ["pointee"]), ("lvalue_reference", ["referee"]),
    ("rvalue_reference", ["referee"]),
    ("typedef", ["name", "qualified_name", "in_system_header", "underlying"]),
    ("template_specialization", ["printed_name"]), ("tag", ["name"]),
    ("function_proto", ["call_conv", "return_type", "params"]), ("other", ["description"])]

/-- Reads a type in a form, the parts of which are settled. -/
def ofForm? (form : Value.Form) (value : Value) : Option SourceType :=
  value.readTagged form "kind" kinds fun kind fields smaller =>
    let typePart (name : String) : Option SourceType :=
      fields.requiredPart name fun part member =>
        have := smaller member
        ofForm? .settled part
    match kind with
    | "builtin" => (fields.required "builtin" (Builtin.ofForm? .settled)).map builtin
    | "pointer" => (typePart "pointee").map pointer
    | "lvalue_reference" => (typePart "referee").map lvalueReference
    | "rvalue_reference" => (typePart "referee").map rvalueReference
    | "typedef" => do
      let name ← fields.required "name" Value.asText?
      let qualifiedName ← fields.optional "qualified_name" "" Value.asText?
      let inSystemHeader ← fields.optional "in_system_header" false Value.asBoolean?
      let underlying ← typePart "underlying"
      some (typedef name qualifiedName inSystemHeader underlying)
    | "template_specialization" =>
      (fields.required "printed_name" Value.asText?).map templateSpecialization
    | "tag" => (fields.optional "name" "" Value.asText?).map tag
    | "function_proto" => do
      let convention ← fields.optional "call_conv" .c (CallConvention.ofForm? .settled)
      let result ← typePart "return_type"
      let parameters ← fields.optionalPart "params" [] fun parameters member =>
        parameters.asPartsOf? fun parameter _ =>
          have := smaller member
          ofForm? .settled parameter
      some (prototype convention result parameters)
    | "other" => (fields.required "description" Value.asText?).map other
    | _ => none
termination_by sizeOf value

/-- Reads a type. -/
def decode? (value : Value) : Option SourceType := do ofForm? .written (← value.settle?)

end SourceType

namespace Member

/-- A parameter or field as a value. -/
def encode (owner : Member) : Value :=
  .record [("name", .text owner.name), ("type", owner.type.encode),
    ("location", owner.location.encode)]

/-- Reads what parameters and fields have in common, given how their name is read. Both are
parts of something that is settled. -/
def ofName? (name? : Fields → Option String) (value : Value) : Option Member := do
  let fields ← value.asRecord? ["name", "type", "location"]
  let name ← name? fields
  let type ← fields.required "type" (SourceType.ofForm? .settled)
  let location ← fields.optional "location" .unknown Location.decode?
  some { name, type, location }

/-- Reads a parameter, which may lack a name. -/
def parameterOf? : Value → Option Member :=
  ofName? fun fields => fields.optional "name" "" Value.asText?

/-- Reads a field. -/
def fieldOf? : Value → Option Member :=
  ofName? fun fields => fields.required "name" Value.asText?

end Member

namespace TypedefTarget

/-- What a typedef names as a value. -/
def encode : TypedefTarget → Value
  | enumeration name integerType enumerators =>
    .record [("target", .text "enum"), ("name", .text name),
      ("integer_type", integerType.encode),
      ("enumerators", .ofList Enumerator.encode enumerators)]
  | .structure name fields =>
    .record [("target", .text "struct"), ("name", .text name),
      ("fields", .ofList Member.encode fields)]
  | type named => .record [("target", .text "type"), ("type", named.encode)]

/-- What a typedef may name, with the names of the fields. -/
def kinds : List (String × List String) :=
  [("enum", ["name", "integer_type", "enumerators"]), ("struct", ["name", "fields"]),
    ("type", ["type"])]

/-- Reads what a typedef names, which is a part of something that is settled. -/
def ofSettled? (value : Value) : Option TypedefTarget := do
  let (kind, fields) ← value.asTagged? .settled "target" kinds
  match kind with
  | "enum" =>
    let name ← fields.optional "name" "" Value.asText?
    let integerType ← fields.required "integer_type" (SourceType.ofForm? .settled)
    let enumerators ← fields.optional "enumerators" [] (Value.asListOf? Enumerator.decode?)
    some (enumeration name integerType enumerators)
  | "struct" =>
    let name ← fields.optional "name" "" Value.asText?
    let members ← fields.optional "fields" [] (Value.asListOf? Member.fieldOf?)
    some (.structure name members)
  | "type" => (fields.required "type" (SourceType.ofForm? .settled)).map type
  | _ => none

end TypedefTarget

namespace DeclarationKind

/-- The part of a declaration that depends on its kind, as a value. -/
def encode : DeclarationKind → Value
  | .variable type => .record [("decl", .text "var"), ("type", type.encode)]
  | function result parameters =>
    .record [("decl", .text "function"), ("return_type", result.encode),
      ("params", .ofList Member.encode parameters)]
  | enumeration integerType enumerators =>
    .record [("decl", .text "enum"), ("integer_type", integerType.encode),
      ("enumerators", .ofList Enumerator.encode enumerators)]
  | .structure fields =>
    .record [("decl", .text "struct"), ("fields", .ofList Member.encode fields)]
  | typedef underlying =>
    .record [("decl", .text "typedef"), ("underlying", underlying.encode)]

/-- The kinds of declarations with the names of their fields. -/
def kinds : List (String × List String) :=
  [("var", ["type"]), ("function", ["return_type", "params"]),
    ("enum", ["integer_type", "enumerators"]), ("struct", ["fields"]),
    ("typedef", ["underlying"])]

/-- Reads the part of a declaration that depends on its kind. -/
def decode? (value : Value) : Option DeclarationKind := do
  let (kind, fields) ← (← value.settle?).asTagged? .written "decl" kinds
  match kind with
  | "var" => (fields.required "type" (SourceType.ofForm? .settled)).map .variable
  | "function" =>
    let result ← fields.required "return_type" (SourceType.ofForm? .settled)
    let parameters ← fields.optional "params" [] (Value.asListOf? Member.parameterOf?)
    some (function result parameters)
  | "enum" =>
    let integerType ← fields.required "integer_type" (SourceType.ofForm? .settled)
    let enumerators ← fields.optional "enumerators" [] (Value.asListOf? Enumerator.decode?)
    some (enumeration integerType enumerators)
  | "struct" =>
    (fields.optional "fields" [] (Value.asListOf? Member.fieldOf?)).map .structure
  | "typedef" => (fields.required "underlying" TypedefTarget.ofSettled?).map typedef
  | _ => none

end DeclarationKind

namespace Linkage

/-- A linkage as a value. -/
def encode (linkage : Linkage) : Value :=
  .record [("external_formal", .boolean linkage.externalFormal),
    ("c_language", .boolean linkage.cLanguage)]

/-- Reads a linkage. -/
def decode? (value : Value) : Option Linkage := do
  let fields ← value.asFields?
  let externalFormal ← fields.optional "external_formal" true Value.asBoolean?
  let cLanguage ← fields.optional "c_language" true Value.asBoolean?
  some { externalFormal, cLanguage }

end Linkage

namespace Declaration

/-- A declaration as a value. -/
def encode (declaration : Declaration) : Value :=
  .record [("name", .text declaration.name), ("kind", declaration.kind.encode),
    ("linkage", declaration.linkage.encode), ("origin", .text declaration.origin.word),
    ("location", declaration.location.encode)]

/-- Reads a declaration. -/
def decode? (value : Value) : Option Declaration := do
  let fields ← value.asFields?
  let name ← fields.optional "name" "" Value.asText?
  let kind ← fields.required "kind" DeclarationKind.decode?
  let linkage ← fields.optional "linkage" {} Linkage.decode?
  let origin ← fields.optional "origin" .mainFile Origin.decode?
  let location ← fields.optional "location" .unknown Location.decode?
  some { name, kind, linkage, origin, location }

end Declaration

namespace SourceUnit

/-- A source unit as a value. -/
def encode (unit : SourceUnit) : Value :=
  .record [("file", .text unit.file), ("decls", .ofList Declaration.encode unit.declarations)]

/-- Reads a source unit. -/
def decode? (value : Value) : Option SourceUnit := do
  let fields ← value.asFields?
  let file ← fields.optional "file" "" Value.asText?
  let declarations ← fields.optional "decls" [] (Value.asListOf? Declaration.decode?)
  some { file, declarations }

end SourceUnit

end ForeignBindings
