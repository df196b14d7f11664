import ForeignBindings.CType
import ForeignBindings.Scalar.Builtin
import ForeignBindings.Value.Collection

/-!
# Types as values

The data format of scalars, builtins and C types. A type is a mapping whose entry
`kind` says what it is. Since that entry may stand anywhere in the mapping, all
the other parts of a type are settled before they are read.
-/

namespace ForeignBindings

namespace Scalar

/-- The fields of a scalar. -/
def fields (scalar : Scalar) : Fields :=
  [("sign", .text scalar.sign.word), ("qualifier", .text scalar.family.word),
    ("width", .text scalar.width.word)]

/-- The names of the fields of a scalar. -/
def fieldNames : List String := ["sign", "qualifier", "width"]

/-- Reads the fields of a scalar. -/
def ofFields? (form : Value.Form) (fields : Fields) : Option Scalar := do
  let sign ← fields.required "sign" (Value.asOneOf? form Signedness.all Signedness.word)
  let family ← fields.required "qualifier" (Value.asOneOf? form Family.all Family.word)
  let width ← fields.required "width" (Value.asOneOf? form Width.all Width.word)
  some ⟨sign, family, width⟩

/-- A scalar as a value. -/
def encode (scalar : Scalar) : Value := .record scalar.fields

/-- Reads a scalar. -/
def decode? (value : Value) : Option Scalar := do
  ofFields? .written (← value.asRecord? fieldNames)

end Scalar

namespace Builtin

/-- A builtin as a value: its word, or the name of an extension under a word of its own. -/
def encode : Builtin → Value
  | extension name => .record [("Extension", .text name)]
  | builtin => .text builtin.word

/-- Whether a key says that the name of an extension follows. The place of extensions is
behind all named builtins. -/
def isExtensionKey : Value → Bool
  | .text name => name == "Extension"
  | .natural place => place == named.length
  | _ => false

/-- Reads a builtin in a form. -/
def ofForm? (form : Value.Form) : Value → Option Builtin
  | .mapping [(key, name)] =>
    if isExtensionKey key then name.asText?.map extension
    else Value.asOneOf? form named word (.mapping [(key, name)])
  | value => value.asOneOf? form named word

/-- Reads a builtin. -/
def decode? (value : Value) : Option Builtin := ofForm? .written value

end Builtin

namespace CType

mutual

/-- A type as a value. -/
def encode : CType → Value
  | scalar leaf => .record (("kind", .text "scalar") :: leaf.fields)
  | pointer pointee => .record [("kind", .text "pointer"), ("pointee", pointee.encode)]
  | named name => .record [("kind", .text "opaque"), ("name", .text name)]
  | function result parameters =>
    .record [("kind", .text "function"), ("return_type", result.encode),
      ("params", .sequence (encodeAll parameters))]
termination_by structural type => type

/-- A parameter list as values. -/
def encodeAll : List (Entity CType) → List Value
  | [] => []
  | ⟨name, type⟩ :: rest =>
    .record [("name", .text name), ("type", type.encode)] :: encodeAll rest
termination_by structural parameters => parameters

end

/-- The kinds of types with the names of their fields. -/
def kinds : List (String × List String) :=
  [("scalar", Scalar.fieldNames), ("pointer", ["pointee"]), ("opaque", ["name"]),
    ("function", ["return_type", "params"])]

/-- The names of the fields of a parameter or a field. -/
def entityNames : List String := ["name", "type"]

/-- Reads a type in a form, the parts of which are settled. -/
def ofForm? (form : Value.Form) (value : Value) : Option CType :=
  value.readTagged form "kind" kinds fun kind fields smaller =>
    match kind with
    | "scalar" => (Scalar.ofFields? .settled fields).map scalar
    | "pointer" =>
      (fields.requiredPart "pointee" fun pointee member =>
        have := smaller member
        ofForm? .settled pointee).map pointer
    | "opaque" => (fields.required "name" Value.asText?).map named
    | "function" => do
      let result ← fields.requiredPart "return_type" fun result member =>
        have := smaller member
        ofForm? .settled result
      let parameters ← fields.requiredPart "params" fun parameters member =>
        parameters.asPartsOf? fun parameter _ =>
          parameter.readRecord entityNames fun entity smallerThanItem => do
            let name ← entity.required "name" Value.asText?
            let type ← entity.requiredPart "type" fun type entityMember =>
              have := smaller member
              have := smallerThanItem entityMember
              ofForm? .settled type
            some ⟨name, type⟩
      some (function result parameters)
    | _ => none
termination_by sizeOf value

/-- Reads a type. -/
def decode? (value : Value) : Option CType := do ofForm? .written (← value.settle?)

end CType

namespace Entity

/-- A field as a value. -/
def encode (field : Entity CType) : Value :=
  .record [("name", .text field.name), ("type", field.type.encode)]

/-- Reads a field, given how its type is read. -/
def ofType? (type? : Value → Option CType) (value : Value) : Option (Entity CType) := do
  let fields ← value.asRecord? CType.entityNames
  let name ← fields.required "name" Value.asText?
  let type ← fields.required "type" type?
  some ⟨name, type⟩

/-- Reads a field. -/
def decode? : Value → Option (Entity CType) := ofType? CType.decode?

end Entity

end ForeignBindings
