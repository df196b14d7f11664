import ForeignBindings.Format.Contents
import ForeignBindings.Proofs.Format.Types

/-!
# The format of lowered modules

Tags and the contents of modules are read back from their encodings. Nothing can be left out of
these.
-/

namespace ForeignBindings

namespace Enumerator

/-- The encodings of an enumerator. -/
def encodings (enumerator : Enumerator) : Set Value :=
  Value.recordsOf
    [{ name := "name", encodings := {.text enumerator.name} },
      { name := "value", encodings := {.ofInt enumerator.value.toInt} }]

/-- Enumerators are read back. -/
theorem faithful : Value.Faithful encode encodings decode? where
  encode_mem _ := Value.record_mem_recordsOf (.cons ⟨rfl, rfl⟩ (.cons ⟨rfl, rfl⟩ .nil)) (by simp)
  decode?_eq enumerator := by
    rintro value ⟨fields, ⟨holds, -⟩, rfl⟩
    have name := holds.required 0 rfl (Value.faithful_text.decode?_eq enumerator.name)
    have number := holds.required 1 rfl (Value.faithful_integer.decode?_eq enumerator.value)
    simp only [decode?, Value.asRecord?_record, name, number, Option.bind_eq_bind, Option.bind_some]

@[simp] theorem settled_encodings (enumerator : Enumerator) :
    Value.Settled enumerator.encodings :=
  Value.settled_recordsOf (by simp)

end Enumerator

namespace Tag

/-- The encodings of a tag. -/
def encodings : Tag → Set Value
  | .structure fields =>
    Value.taggedOf "tag" "structure"
      [{ name := "fields", encodings := Value.listsOf Entity.encodings fields }]
  | enumeration underlying values =>
    Value.taggedOf "tag" "enumeration"
      [{ name := "underlying_type", encodings := underlying.encodings },
        { name := "values", encodings := Value.listsOf Enumerator.encodings values }]

theorem settled_encodings (tag : Tag) : Value.Settled tag.encodings := by
  cases tag with
  | «structure» fields => exact Value.settled_taggedOf (by simp)
  | enumeration underlying values => exact Value.settled_taggedOf (by simp)

/-- Tags are read back. -/
theorem faithful : Value.Faithful encode encodings decode? where
  encode_mem tag := by
    cases tag with
    | «structure» fields =>
      exact Value.record_mem_recordsOf
        (.cons ⟨rfl, rfl⟩ (.cons ⟨rfl, Entity.faithful.list.encode_mem fields⟩ .nil)) (by simp)
    | enumeration underlying values =>
      exact Value.record_mem_recordsOf (.cons ⟨rfl, rfl⟩ (.cons ⟨rfl, underlying.encode_mem⟩
        (.cons ⟨rfl, Enumerator.faithful.list.encode_mem values⟩ .nil))) (by simp)
  decode?_eq tag value member := by
    unfold decode?
    rw [tag.settled_encodings value member, Option.bind_eq_bind, Option.bind_some]
    cases tag with
    | «structure» fields =>
      obtain ⟨found, ⟨holds, -⟩, rfl⟩ := member
      have read := holds.required 1 rfl (Entity.faithful.list.decode?_eq fields)
      rw [Value.asTagged?_record .written holds rfl]
      simp only [Option.bind_eq_bind, Option.bind_some, read, Option.map_some]
    | enumeration underlying values =>
      obtain ⟨found, ⟨holds, -⟩, rfl⟩ := member
      have underlyingRead := holds.required 1 rfl (underlying.ofForm?_eq .settled)
      have valuesRead := holds.required 2 rfl (Enumerator.faithful.list.decode?_eq values)
      rw [Value.asTagged?_record .written holds rfl]
      simp only [Option.bind_eq_bind, Option.bind_some, underlyingRead, valuesRead]

end Tag

namespace Contents

/-- The encodings of the contents of a module. -/
def encodings (contents : Contents) : Set Value :=
  Value.recordsOf
    [{ name := "entities", encodings := Value.mapsOf CType.encodings contents.entities },
      { name := "tags", encodings := Value.mapsOf Tag.encodings contents.tags },
      { name := "imports", encodings := Value.listsOf (fun name => {.text name}) contents.imports }]

/-- The contents of modules are read back. -/
theorem faithful : Value.Faithful encode encodings decode? where
  encode_mem contents := by
    refine Value.record_mem_recordsOf (.cons ⟨rfl, ?entities⟩ (.cons ⟨rfl, ?tags⟩
      (.cons ⟨rfl, ?imports⟩ .nil))) (by simp)
    case entities => exact CType.faithful.map.encode_mem contents.entities
    case tags => exact Tag.faithful.map.encode_mem contents.tags
    case imports => exact Value.faithful_text.list.encode_mem contents.imports
  decode?_eq contents := by
    rintro value ⟨fields, ⟨holds, -⟩, rfl⟩
    have entities := holds.required 0 rfl (CType.faithful.map.decode?_eq contents.entities)
    have tags := holds.required 1 rfl (Tag.faithful.map.decode?_eq contents.tags)
    have imports := holds.required 2 rfl (Value.faithful_text.list.decode?_eq contents.imports)
    simp only [decode?, Value.asFields?, Value.asRecord?_record, entities, tags, imports,
      Option.bind_eq_bind, Option.bind_some]

end Contents

end ForeignBindings
