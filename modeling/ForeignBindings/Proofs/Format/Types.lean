import ForeignBindings.Format.Type
import ForeignBindings.Proofs.Format.Collections

/-!
# The format of types

Scalars, builtins and C types are read back from their encodings. Nothing can be left out of
these. Types are read in the form in which they stand and, inside of something else, settled.
-/

namespace ForeignBindings

/-- The words of signednesses tell them apart. -/
theorem Signedness.find?_word (signedness : Signedness) :
    all.find? (fun member => member.word == signedness.word) = some signedness := by
  cases signedness <;> rfl

/-- The words of families tell them apart. -/
theorem Family.find?_word (family : Family) :
    all.find? (fun member => member.word == family.word) = some family := by
  cases family <;> rfl

/-- The words of widths tell them apart. -/
theorem Width.find?_word (width : Width) :
    all.find? (fun member => member.word == width.word) = some width := by
  cases width <;> rfl

namespace Scalar

/-- The parts of a scalar. -/
def parts (scalar : Scalar) : List Part :=
  [{ name := "sign", encodings := {.text scalar.sign.word} },
    { name := "qualifier", encodings := {.text scalar.family.word} },
    { name := "width", encodings := {.text scalar.width.word} }]

/-- A scalar is read back from its parts. -/
theorem ofFields?_eq (form : Value.Form) {scalar : Scalar} {fields : Fields}
    (holds : fields.Hold scalar.parts) : ofFields? form fields = some scalar := by
  have sign := holds.required 0 rfl
    ((Value.faithful_word form Signedness.find?_word).decode?_eq scalar.sign)
  have family := holds.required 1 rfl
    ((Value.faithful_word form Family.find?_word).decode?_eq scalar.family)
  have width := holds.required 2 rfl
    ((Value.faithful_word form Width.find?_word).decode?_eq scalar.width)
  simp only [ofFields?, sign, family, width, Option.bind_eq_bind, Option.bind_some]

end Scalar

namespace Builtin

/-- A builtin is read back in any form. -/
theorem ofForm?_encode (form : Value.Form) (builtin : Builtin) :
    ofForm? form builtin.encode = some builtin := by
  cases builtin <;> rfl

@[simp] theorem settled_encode (builtin : Builtin) : Value.Settled {builtin.encode} :=
  Value.settled_singleton (by cases builtin <;> rfl)

end Builtin

namespace CType

/-- The parts of a parameter or a field. -/
def entityParts (name : String) (type : Set Value) : List Part :=
  [{ name := "name", encodings := {.text name} }, { name := "type", encodings := type }]

mutual

/-- The encodings of a type. -/
def encodings : CType → Set Value
  | scalar leaf => Value.taggedOf "kind" "scalar" leaf.parts
  | pointer pointee =>
    Value.taggedOf "kind" "pointer" [{ name := "pointee", encodings := pointee.encodings }]
  | named name => Value.taggedOf "kind" "opaque" [{ name := "name", encodings := {.text name} }]
  | function result parameters =>
    Value.taggedOf "kind" "function"
      [{ name := "return_type", encodings := result.encodings },
        { name := "params", encodings := Value.sequence '' encodingsAll parameters }]
termination_by structural type => type

/-- The encodings of a parameter list. -/
def encodingsAll : List (Entity CType) → Set (List Value)
  | [] => {[]}
  | ⟨name, type⟩ :: rest =>
    Set.image2 List.cons (Value.recordsOf (entityParts name type.encodings)) (encodingsAll rest)
termination_by structural parameters => parameters

end

end CType

namespace Entity

/-- The encodings of a parameter or a field. -/
def encodings (field : Entity CType) : Set Value :=
  Value.recordsOf (CType.entityParts field.name field.type.encodings)

/-- A parameter or a field has an encoding if its type has one. -/
theorem encode_mem {field : Entity CType} (type : field.type.encode ∈ field.type.encodings) :
    field.encode ∈ field.encodings :=
  Value.record_mem_recordsOf (.cons ⟨rfl, rfl⟩ (.cons ⟨rfl, type⟩ .nil)) (by simp)

/-- Parameters and fields are settled if their types are. -/
theorem settled_of_type {field : Entity CType} (type : Value.Settled field.type.encodings) :
    Value.Settled field.encodings :=
  Value.settled_recordsOf (by simp [CType.entityParts, type])

/-- A parameter or a field is read back if its type is. -/
theorem ofType?_eq {type? : Value → Option CType} {field : Entity CType}
    (type : ∀ value ∈ field.type.encodings, type? value = some field.type) :
    ∀ value ∈ field.encodings, ofType? type? value = some field := by
  rintro value ⟨fields, ⟨holds, -⟩, rfl⟩
  have name := holds.required 0 rfl (Value.faithful_text.decode?_eq field.name)
  have typed := holds.required 1 rfl type
  simp only [ofType?, Value.asRecord?_record, name, typed, Option.bind_eq_bind, Option.bind_some]

end Entity

namespace CType

/-- The encodings of a parameter list encode its parameters one by one. -/
@[simp] theorem image_encodingsAll (parameters : List (Entity CType)) :
    Value.sequence '' encodingsAll parameters = Value.listsOf Entity.encodings parameters :=
  Value.image_sequence_eq_listsOf encodingsAll rfl (fun _ _ => rfl) parameters

/-- The parameters of a list are encoded one by one. -/
theorem encodeAll_eq_map (parameters : List (Entity CType)) :
    encodeAll parameters = parameters.map Entity.encode := by
  induction parameters with
  | nil => rfl
  | cons parameter rest inductionHypothesis =>
    rw [encodeAll, inductionHypothesis]
    rfl

/-- The whole encoding of a type is one of its encodings. -/
theorem encode_mem (type : CType) : type.encode ∈ type.encodings := by
  induction type using induction with
  | scalar leaf =>
    exact Value.record_mem_recordsOf
      (.cons ⟨rfl, rfl⟩ (.cons ⟨rfl, rfl⟩ (.cons ⟨rfl, rfl⟩ (.cons ⟨rfl, rfl⟩ .nil))))
      (by simp [Scalar.fields])
  | pointer pointee inductionHypothesis =>
    exact Value.record_mem_recordsOf
      (.cons ⟨rfl, rfl⟩ (.cons ⟨rfl, inductionHypothesis⟩ .nil)) (by simp)
  | named name =>
    exact Value.record_mem_recordsOf (.cons ⟨rfl, rfl⟩ (.cons ⟨rfl, rfl⟩ .nil)) (by simp)
  | function result parameters ofResult ofParameters =>
    have all : .sequence (encodeAll parameters) ∈ Value.sequence '' encodingsAll parameters := by
      rw [image_encodingsAll, encodeAll_eq_map]
      exact Value.ofList_mem_listsOf fun parameter member =>
        Entity.encode_mem (ofParameters parameter member)
    exact Value.record_mem_recordsOf (.cons ⟨rfl, rfl⟩ (.cons ⟨rfl, ofResult⟩
      (.cons ⟨rfl, all⟩ .nil))) (by simp)

/-- The encodings of a type are settled. -/
@[simp] theorem settled_encodings (type : CType) : Value.Settled type.encodings := by
  induction type using induction with
  | scalar leaf => exact Value.settled_taggedOf (by simp [Scalar.parts])
  | pointer pointee inductionHypothesis =>
    exact Value.settled_taggedOf (by simp [inductionHypothesis])
  | named name => exact Value.settled_taggedOf (by simp)
  | function result parameters ofResult ofParameters =>
    have ofAll : ∀ parameter ∈ parameters, Value.Settled parameter.encodings :=
      fun parameter member => Entity.settled_of_type (ofParameters parameter member)
    exact Value.settled_taggedOf (by simp [ofResult, Value.settled_listsOf ofAll])

/-- A type is read back in any form. -/
theorem ofForm?_eq (form : Value.Form) (type : CType) :
    ∀ value ∈ type.encodings, ofForm? form value = some type := by
  induction type using induction generalizing form with
  | scalar leaf =>
    rintro value ⟨fields, ⟨holds, -⟩, rfl⟩
    have read := Scalar.ofFields?_eq .settled holds.tail
    rw [ofForm?, Value.readTagged_record holds rfl]
    simp only [read, Option.map_some]
  | pointer pointee inductionHypothesis =>
    rintro value ⟨fields, ⟨holds, -⟩, rfl⟩
    rw [ofForm?, Value.readTagged_record holds rfl]
    dsimp only
    rw [holds.requiredPart 1 rfl fun value encodes _ => inductionHypothesis .settled value encodes]
    rfl
  | named name =>
    rintro value ⟨fields, ⟨holds, -⟩, rfl⟩
    have read := holds.required 1 rfl (Value.faithful_text.decode?_eq name)
    rw [ofForm?, Value.readTagged_record holds rfl]
    simp only [read, Option.map_some]
  | function result parameters ofResult ofParameters =>
    rintro value ⟨fields, ⟨holds, -⟩, rfl⟩
    rw [ofForm?, Value.readTagged_record holds rfl]
    dsimp only
    rw [holds.requiredPart 1 rfl fun value encodes _ => ofResult .settled value encodes]
    rw [Option.bind_eq_bind, Option.bind_some, holds.requiredPart 2 rfl]
    · rfl
    rw [image_encodingsAll]
    rintro value ⟨items, areItems, rfl⟩ member
    have pairs := (List.forall₂_and_left _ _).mpr ⟨ofParameters, areItems⟩
    refine Value.asPartsOf?_sequence (pairs.imp ?_)
    rintro parameter item ⟨ofType, fields, ⟨holds, -⟩, rfl⟩ smaller
    rw [Value.readRecord_record]
    rw [holds.required 0 rfl (Value.faithful_text.decode?_eq parameter.name), Option.bind_eq_bind,
      Option.bind_some]
    rw [holds.requiredPart 1 rfl fun value encodes _ => ofType .settled value encodes]
    rfl

/-- Types are read back. -/
theorem faithful : Value.Faithful encode encodings decode? where
  encode_mem := encode_mem
  decode?_eq type value member := by
    unfold decode?
    rw [type.settled_encodings value member, Option.bind_eq_bind, Option.bind_some]
    exact ofForm?_eq .written type value member

end CType

@[simp] theorem Entity.settled_encodings (field : Entity CType) :
    Value.Settled field.encodings :=
  settled_of_type field.type.settled_encodings

/-- Fields are read back, as parts of something that is settled. -/
theorem Entity.faithful :
    Value.Faithful encode encodings (ofType? (CType.ofForm? .settled)) where
  encode_mem field := encode_mem field.type.encode_mem
  decode?_eq field := ofType?_eq (field.type.ofForm?_eq .settled)

end ForeignBindings
