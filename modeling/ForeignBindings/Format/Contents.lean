import ForeignBindings.Contents
import ForeignBindings.Format.Type

/-!
# Lowered modules as values

The data format of enumerators, tags and the contents of modules.
-/

namespace ForeignBindings

namespace Enumerator

/-- An enumerator as a value. -/
def encode (enumerator : Enumerator) : Value :=
  .record [("name", .text enumerator.name), ("value", .ofInt enumerator.value.toInt)]

/-- Reads an enumerator. Its value has to fit into 64 bits with a sign. -/
def decode? (value : Value) : Option Enumerator := do
  let fields ← value.asRecord? ["name", "value"]
  let name ← fields.required "name" Value.asText?
  let number ← fields.required "value" Value.asInt64?
  some ⟨name, number⟩

end Enumerator

namespace Tag

/-- A tag as a value. -/
def encode : Tag → Value
  | .structure fields =>
    .record [("tag", .text "structure"), ("fields", .ofList Entity.encode fields)]
  | enumeration underlying values =>
    .record [("tag", .text "enumeration"), ("underlying_type", underlying.encode),
      ("values", .ofList Enumerator.encode values)]

/-- The kinds of tags with the names of their fields. -/
def kinds : List (String × List String) :=
  [("structure", ["fields"]), ("enumeration", ["underlying_type", "values"])]

/-- Reads a tag. -/
def decode? (value : Value) : Option Tag := do
  let (kind, fields) ← (← value.settle?).asTagged? .written "tag" kinds
  match kind with
  | "structure" =>
    (fields.required "fields" (Value.asListOf? (Entity.ofType? (CType.ofForm? .settled)))).map
      .structure
  | "enumeration" =>
    let underlying ← fields.required "underlying_type" (CType.ofForm? .settled)
    let values ← fields.required "values" (Value.asListOf? Enumerator.decode?)
    some (enumeration underlying values)
  | _ => none

end Tag

namespace Contents

/-- The contents of a module as a value. -/
def encode (contents : Contents) : Value :=
  .record [("entities", .ofMap CType.encode contents.entities),
    ("tags", .ofMap Tag.encode contents.tags),
    ("imports", .ofList .text contents.imports)]

/-- Reads the contents of a module. -/
def decode? (value : Value) : Option Contents := do
  let fields ← value.asFields?
  let entities ← fields.required "entities" (Value.asMapOf? CType.decode?)
  let tags ← fields.required "tags" (Value.asMapOf? Tag.decode?)
  let imports ← fields.required "imports" (Value.asListOf? Value.asText?)
  some { entities, tags, imports }

end Contents

end ForeignBindings
