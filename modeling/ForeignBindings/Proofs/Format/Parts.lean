import ForeignBindings.Value.Record
import Mathlib.Data.List.Forall2
import Mathlib.Data.List.Nodup
import Mathlib.Data.Set.Insert

/-!
# Records with fields left out

A record is written whole, but it may be read without some of its fields: a field may be left
out if its content is the one that counts where it is absent. The order of the fields never
matters. `Value.recordsOf` is the set of all records that stand for given parts. It contains the
whole ones (`Value.record_mem_recordsOf`). `Fields.Hold.requiredPart` and
`Fields.Hold.optionalPart` say that each part is read back from any of them.
-/

namespace ForeignBindings

/-- A field of a record. -/
structure Part where
  name : String
  /-- The values that its content may be written as. -/
  encodings : Set Value
  /-- Whether its content is what counts where the field is absent. -/
  isDefault : Prop := False

/-- What a record may hold under the name of a part: an encoding of it, or nothing if the part
may be left out. -/
inductive Part.Occurs (part : Part) : List Value → Prop
  | kept {value : Value} : value ∈ part.encodings → part.Occurs [value]
  | leftOut : part.isDefault → part.Occurs []

namespace Fields

/-- Fields among which parts stand, in any order and perhaps beside others. -/
def Hold (fields : Fields) (parts : List Part) : Prop :=
  ∀ part ∈ parts, part.Occurs (fields.occurrences part.name)

/-- Fields that stand for parts and for nothing else. -/
structure Spell (fields : Fields) (parts : List Part) : Prop where
  holds : fields.Hold parts
  isPart : ∀ field ∈ fields, ∃ part ∈ parts, part.name = field.1

/-- A field occurs under its name. -/
theorem mem_occurrences {fields : Fields} {name : String} {value : Value} :
    value ∈ fields.occurrences name ↔ (name, value) ∈ fields := by
  unfold occurrences
  simp only [List.mem_map, List.mem_filter, beq_iff_eq, Prod.exists, exists_eq_right]

/-- Of fields with different names, a field is all that occurs under its name. -/
theorem occurrences_of_nodup {fields : Fields} (names : (fields.map Prod.fst).Nodup)
    {field : String × Value} (member : field ∈ fields) :
    fields.occurrences field.1 = [field.2] := by
  unfold occurrences
  induction fields with
  | nil => cases member
  | cons first rest inductionHypothesis =>
    rw [List.map_cons, List.nodup_cons] at names
    rcases List.mem_cons.mp member with rfl | later
    · have noOther : rest.filter (fun other => other.1 == field.1) = [] := by
        refine List.filter_eq_nil_iff.mpr fun other isOther same => names.1 ?_
        rw [← eq_of_beq same]
        exact List.mem_map_of_mem isOther
      simp only [List.filter_cons, beq_self_eq_true, if_true, noOther, List.map_cons, List.map_nil]
    · have notFirst : ¬ (first.1 == field.1) = true := by
        intro same
        rw [eq_of_beq same] at names
        exact names.1 (List.mem_map_of_mem later)
      rw [List.filter_cons, if_neg notFirst]
      exact inductionHypothesis names.2 later

/-- A field that occurs exactly once is decoded. -/
theorem requiredPart_eq {α : Type} {fields : Fields} {name : String} {value : Value}
    (occurs : fields.occurrences name = [value])
    (decode : (value : Value) → (name, value) ∈ fields → Option α) :
    fields.requiredPart name decode = decode value (mem_of_occurs occurs) := by
  unfold requiredPart
  split
  case h_1 found same =>
    obtain rfl : value = found := by simpa [occurs] using same
    rfl
  case h_2 others => exact absurd occurs (others value)

/-- A field with a default that occurs exactly once is decoded. -/
theorem optionalPart_eq {α : Type} {fields : Fields} {name : String} {value : Value}
    (occurs : fields.occurrences name = [value]) (default : α)
    (decode : (value : Value) → (name, value) ∈ fields → Option α) :
    fields.optionalPart name default decode = decode value (mem_of_occurs occurs) := by
  unfold optionalPart
  split
  case h_1 none => simp [occurs] at none
  case h_2 found same =>
    obtain rfl : value = found := by simpa [occurs] using same
    rfl
  case h_3 _ others => exact absurd occurs (others value)

/-- The default counts for a field that is absent. -/
theorem optionalPart_of_absent {α : Type} {fields : Fields} {name : String}
    (absent : fields.occurrences name = []) (default : α)
    (decode : (value : Value) → (name, value) ∈ fields → Option α) :
    fields.optionalPart name default decode = some default := by
  unfold optionalPart
  split
  case h_1 => rfl
  case h_2 found same => simp [absent] at same
  case h_3 others _ => exact absurd absent others

namespace Hold

variable {fields : Fields} {parts : List Part} {name : String} {encodings : Set Value}
  {isDefault : Prop} {α : Type} {content : α}

theorem nil : fields.Hold [] := List.forall_mem_nil _

theorem cons {part : Part} (first : part.Occurs (fields.occurrences part.name))
    (others : fields.Hold parts) : fields.Hold (part :: parts) :=
  List.forall_mem_cons.mpr ⟨first, others⟩

theorem tail {part : Part} (holds : fields.Hold (part :: parts)) : fields.Hold parts :=
  (List.forall_mem_cons.mp holds).2

/-- What occurs under the name of a part that may not be left out. -/
theorem exists_occurrence (holds : fields.Hold parts) (place : Nat)
    (listed : parts[place]? = some ⟨name, encodings, False⟩) :
    ∃ value ∈ encodings, fields.occurrences name = [value] := by
  have occurs := holds _ (List.mem_of_getElem? listed)
  dsimp only at occurs
  generalize fields.occurrences name = values at occurs
  cases occurs with
  | kept member => exact ⟨_, member, rfl⟩
  | leftOut isDefault => exact isDefault.elim

/-- A part that may not be left out is read back. -/
theorem requiredPart (holds : fields.Hold parts) (place : Nat)
    (listed : parts[place]? = some ⟨name, encodings, False⟩)
    {decode : (value : Value) → (name, value) ∈ fields → Option α}
    (reads : ∀ value ∈ encodings, ∀ member, decode value member = some content) :
    fields.requiredPart name decode = some content := by
  obtain ⟨value, encodes, occurs⟩ := holds.exists_occurrence place listed
  rw [requiredPart_eq occurs]
  exact reads value encodes _

/-- A part that may be left out is read back. -/
theorem optionalPart (holds : fields.Hold parts) (place : Nat)
    (listed : parts[place]? = some ⟨name, encodings, isDefault⟩)
    {decode : (value : Value) → (name, value) ∈ fields → Option α}
    (reads : ∀ value ∈ encodings, ∀ member, decode value member = some content) {default : α}
    (absent : isDefault → content = default) :
    fields.optionalPart name default decode = some content := by
  have occurs := holds _ (List.mem_of_getElem? listed)
  dsimp only at occurs
  generalize found : fields.occurrences name = values at occurs
  cases occurs with
  | kept member =>
    rw [optionalPart_eq found]
    exact reads _ member _
  | leftOut isDefault =>
    rw [optionalPart_of_absent found, absent isDefault]

/-- A part that may not be left out is read back. -/
theorem required (holds : fields.Hold parts) (place : Nat)
    (listed : parts[place]? = some ⟨name, encodings, False⟩) {decode : Value → Option α}
    (reads : ∀ value ∈ encodings, decode value = some content) :
    fields.required name decode = some content :=
  holds.requiredPart place listed fun value encodes _ => reads value encodes

/-- A part that may be left out is read back. -/
theorem optional (holds : fields.Hold parts) (place : Nat)
    (listed : parts[place]? = some ⟨name, encodings, isDefault⟩) {decode : Value → Option α}
    (reads : ∀ value ∈ encodings, decode value = some content) {default : α}
    (absent : isDefault → content = default) :
    fields.optional name default decode = some content :=
  holds.optionalPart place listed (fun value encodes _ => reads value encodes) absent

end Hold

/-- The value of a field is an encoding of a part. -/
theorem Spell.exists_part {fields : Fields} {parts : List Part} (spelt : fields.Spell parts)
    {field : String × Value} (member : field ∈ fields) :
    ∃ part ∈ parts, part.name = field.1 ∧ field.2 ∈ part.encodings := by
  obtain ⟨part, isPart, named⟩ := spelt.isPart field member
  have occurs := spelt.holds part isPart
  have among : field.2 ∈ fields.occurrences part.name := mem_occurrences.mpr (named ▸ member)
  generalize fields.occurrences part.name = values at occurs among
  cases occurs with
  | kept encodes => exact ⟨part, isPart, named, List.mem_singleton.mp among ▸ encodes⟩
  | leftOut _ => cases among

/-- Without the fields of one name, the others occur as before. -/
theorem occurrences_without {name other : String} (different : name ≠ other) (fields : Fields) :
    occurrences (fields.filter fun field => field.1 != other) name = occurrences fields name := by
  unfold occurrences
  rw [List.filter_filter]
  congr 1
  refine List.filter_congr fun field _ => ?_
  by_cases named : field.1 = name
  · simp [named, different]
  · simp [named]

/-- Without the first part, fields stand for the others. -/
theorem Spell.tail {fields : Fields} {part : Part} {parts : List Part}
    (spelt : fields.Spell (part :: parts)) (distinct : part.name ∉ parts.map Part.name) :
    Spell (fields.filter fun field => field.1 != part.name) parts where
  holds other isOther := by
    have different : other.name ≠ part.name := fun same =>
      distinct (same ▸ List.mem_map_of_mem isOther)
    rw [occurrences_without different]
    exact spelt.holds other (List.mem_cons_of_mem _ isOther)
  isPart field member := by
    obtain ⟨isField, different⟩ := List.mem_filter.mp member
    obtain ⟨other, isOther, named⟩ := spelt.isPart field isField
    rcases List.mem_cons.mp isOther with rfl | isOther
    · simp [named] at different
    · exact ⟨other, isOther, named⟩

/-- Parts with different names are spelt by fields that are their encodings, one by one. -/
theorem spell_of_forall₂ {fields : Fields} {parts : List Part}
    (pairs : List.Forall₂ (fun part field => part.name = field.1 ∧ field.2 ∈ part.encodings)
      parts fields) (names : (fields.map Prod.fst).Nodup) : fields.Spell parts where
  holds part isPart := by
    obtain ⟨place, inside, rfl⟩ := List.mem_iff_getElem.mp isPart
    have insideFields : place < fields.length := pairs.length_eq ▸ inside
    obtain ⟨named, encodes⟩ := pairs.get inside insideFields
    simp only [List.get_eq_getElem] at named encodes
    rw [named, occurrences_of_nodup names (List.getElem_mem insideFields)]
    exact .kept encodes
  isPart field isField := by
    obtain ⟨place, inside, rfl⟩ := List.mem_iff_getElem.mp isField
    have insideParts : place < parts.length := pairs.length_eq ▸ inside
    exact ⟨_, List.getElem_mem insideParts, (pairs.get insideParts inside).1⟩

end Fields

namespace Value

/-- The records that stand for parts: some of those whose content is a default may be left out. -/
def recordsOf (parts : List Part) : Set Value :=
  {value | ∃ fields : Fields, fields.Spell parts ∧ value = .record fields}

/-- The records that stand for parts behind a field that says what kind of record it is. -/
def taggedOf (tag kind : String) (parts : List Part) : Set Value :=
  recordsOf ({ name := tag, encodings := {.text kind} } :: parts)

/-- A record of one encoding of each part stands for the parts. -/
theorem record_mem_recordsOf {fields : Fields} {parts : List Part}
    (pairs : List.Forall₂ (fun part field => part.name = field.1 ∧ field.2 ∈ part.encodings)
      parts fields) (names : (fields.map Prod.fst).Nodup) : record fields ∈ recordsOf parts :=
  ⟨fields, Fields.spell_of_forall₂ pairs names, rfl⟩

/-- A record is read as its fields. -/
theorem readRecord_record {α : Type} (names : List String) (fields : Fields)
    (decode : (found : Fields) →
      (∀ {name part}, (name, part) ∈ found → sizeOf part < sizeOf (record fields)) → Option α) :
    (record fields).readRecord names decode =
      decode fields (sizeOf_lt_of_asRecord? (asRecord?_record names fields)) := by
  unfold readRecord
  split
  case h_1 none => simp at none
  case h_2 found same =>
    obtain rfl : fields = found := by simpa using same
    rfl

/-- A tagged record is read as its fields under the word that its tag says. -/
theorem asTagged?_record (form : Form) {tag kind : String} {names : List String}
    {kinds : List (String × List String)} {parts : List Part} {fields : Fields}
    (holds : fields.Hold ({ name := tag, encodings := {.text kind} } :: parts))
    (isKind : kinds.find? (fun candidate => candidate.1 == kind) = some (kind, names)) :
    (record fields).asTagged? form tag kinds = some (kind, fields) := by
  have tagged : fields.required tag (asTag? form kinds Prod.fst) = some (kind, names) :=
    holds.required 0 rfl (by rintro value rfl; exact isKind)
  simp only [asTagged?, asRecord?_record, Option.bind_eq_bind, Option.bind_some, tagged]

/-- A tagged record is read as its fields under the word that its tag says. -/
theorem readTagged_record {α : Type} {form : Form} {tag kind : String} {names : List String}
    {kinds : List (String × List String)} {parts : List Part} {fields : Fields}
    (holds : fields.Hold ({ name := tag, encodings := {.text kind} } :: parts))
    (isKind : kinds.find? (fun candidate => candidate.1 == kind) = some (kind, names))
    (decode : String → (found : Fields) →
      (∀ {name part}, (name, part) ∈ found → sizeOf part < sizeOf (record fields)) → Option α) :
    (record fields).readTagged form tag kinds decode =
      decode kind fields (sizeOf_lt_of_asTagged? (asTagged?_record form holds isKind)) := by
  have tagged := asTagged?_record form holds isKind
  unfold readTagged
  split
  case h_1 none => simp [tagged] at none
  case h_2 found same =>
    obtain rfl : (kind, fields) = found := by simpa [tagged] using same
    rfl

end Value

end ForeignBindings
