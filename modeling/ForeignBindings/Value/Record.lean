import ForeignBindings.Value.Leaf

/-!
# Reading records

A record is a mapping from the names of fields to values. Fields that are not
looked for do not matter, but a field that is may not occur twice. Main
statement: the parts of a record are smaller than the record, which is why
decoders of nested values end.
-/

namespace ForeignBindings

namespace Value

/-- The name of the field that a key stands for. A number stands for the name at its place
among the names of the record, and behind the last of them for no name. -/
def fieldName? (names : List String) : Value → Option String
  | text name | plain name => some name
  | natural place => some (names.getD place "")
  | _ => none

/-- The fields of the entries of a mapping. -/
def fieldsOf? (names : List String) : Entries → Option Fields
  | [] => some []
  | (key, part) :: rest => do
    let name ← key.fieldName? names
    let fields ← fieldsOf? names rest
    some ((name, part) :: fields)

/-- The fields of a value that is a record with the given names of fields. A plain scalar
without any text is a record without fields where a record is wanted. -/
def asRecord? (names : List String) : Value → Option Fields
  | mapping entries => fieldsOf? names entries
  | plain "" => some []
  | _ => none

/-- The entries of a mapping whose keys are texts. -/
def asFields? (value : Value) : Option Fields := value.asRecord? []

/-- Every field is the value of an entry. -/
theorem exists_entry_of_fieldsOf? {names : List String} {entries : Entries} {fields : Fields}
    (found : fieldsOf? names entries = some fields) {name : String}
    {part : Value} (member : (name, part) ∈ fields) : ∃ key, (key, part) ∈ entries := by
  induction entries generalizing fields with
  | nil =>
    simp only [fieldsOf?, Option.some.injEq] at found
    simp [← found] at member
  | cons entry rest inductionHypothesis =>
    obtain ⟨key, value⟩ := entry
    simp only [fieldsOf?, Option.bind_eq_bind, Option.bind_eq_some_iff, Option.some.injEq]
      at found
    obtain ⟨keyName, _, others, othersFound, rfl⟩ := found
    rcases List.mem_cons.mp member with equal | later
    · exact ⟨key, by simp_all⟩
    · obtain ⟨laterKey, laterMember⟩ := inductionHypothesis othersFound later
      exact ⟨laterKey, List.mem_cons_of_mem _ laterMember⟩

/-- A field of a record is smaller than the record. -/
theorem sizeOf_lt_of_asRecord? {names : List String} {value : Value} {fields : Fields}
    (found : value.asRecord? names = some fields) {name : String} {part : Value}
    (member : (name, part) ∈ fields) : sizeOf part < sizeOf value := by
  unfold asRecord? at found
  split at found
  · obtain ⟨key, entryMember⟩ := exists_entry_of_fieldsOf? found member
    have smaller := List.sizeOf_lt_of_mem entryMember
    simp only [Prod.mk.sizeOf_spec, mapping.sizeOf_spec] at smaller ⊢
    omega
  · simp only [Option.some.injEq] at found
    simp [← found] at member
  · simp at found

/-- Reads a record. The decoder may rely on the fields being smaller than the record. -/
def readRecord {α : Type} (names : List String) (value : Value)
    (decode : (fields : Fields) →
      (∀ {name part}, (name, part) ∈ fields → sizeOf part < sizeOf value) → Option α) :
    Option α :=
  match found : value.asRecord? names with
  | none => none
  | some fields => decode fields (sizeOf_lt_of_asRecord? found)

/-- The fields of a record that was written with their names. -/
theorem fieldsOf?_map_text (names : List String) (fields : Fields) :
    fieldsOf? names (fields.map fun field => (.text field.1, field.2)) = some fields := by
  induction fields with
  | nil => rfl
  | cons field rest inductionHypothesis => simp [fieldsOf?, fieldName?, inductionHypothesis]

/-- A record is read back as the fields that it was made of. -/
@[simp] theorem asRecord?_record (names : List String) (fields : Fields) :
    (record fields).asRecord? names = some fields :=
  fieldsOf?_map_text names fields

end Value

namespace Fields

/-- The values of all fields of a name. -/
def occurrences (fields : Fields) (name : String) : List Value :=
  (fields.filter fun field => field.1 == name).map Prod.snd

/-- What occurs under a name is a field of that name. -/
theorem mem_of_occurs {fields : Fields} {name : String} {value : Value} {others : List Value}
    (occurs : occurrences fields name = value :: others) : (name, value) ∈ fields := by
  have member : value ∈ occurrences fields name := by rw [occurs]; exact List.mem_cons_self
  obtain ⟨field, fieldMember, rfl⟩ := List.mem_map.mp member
  obtain ⟨listed, named⟩ := List.mem_filter.mp fieldMember
  simp only [beq_iff_eq] at named
  exact named ▸ listed

/-- Decodes a field that has to be there, exactly once. The decoder may rely on the value
being one of the fields. -/
def requiredPart {α : Type} (fields : Fields) (name : String)
    (decode : (value : Value) → (name, value) ∈ fields → Option α) : Option α :=
  match occurs : occurrences fields name with
  | [value] => decode value (mem_of_occurs occurs)
  | _ => none

/-- Decodes a field that has to be there, exactly once. -/
def required {α : Type} (fields : Fields) (name : String) (decode : Value → Option α) :
    Option α :=
  requiredPart fields name fun value _ => decode value

/-- Decodes a field that has a default, which counts when the field is absent. The decoder
may rely on the value being one of the fields. -/
def optionalPart {α : Type} (fields : Fields) (name : String) (default : α)
    (decode : (value : Value) → (name, value) ∈ fields → Option α) : Option α :=
  match occurs : occurrences fields name with
  | [] => some default
  | [value] => decode value (mem_of_occurs occurs)
  | _ => none

/-- Decodes a field that has a default, which counts when the field is absent. -/
def optional {α : Type} (fields : Fields) (name : String) (default : α)
    (decode : Value → Option α) : Option α :=
  optionalPart fields name default fun value _ => decode value

end Fields

namespace Value

/-- Reads a record in which the field `tag` says what kind of record it is. The kinds are
given by their words, each with the names of its other fields; the result is a word and the
fields. -/
def asTagged? (form : Form) (tag : String) (kinds : List (String × List String))
    (value : Value) : Option (String × Fields) := do
  let kind ← (← value.asRecord? []).required tag (asTag? form kinds Prod.fst)
  let fields ← value.asRecord? kind.2
  some (kind.1, fields)

/-- A field of a tagged record is smaller than the record. -/
theorem sizeOf_lt_of_asTagged? {form : Form} {tag : String} {kinds : List (String × List String)}
    {value : Value} {kind : String × Fields} (tagged : value.asTagged? form tag kinds = some kind)
    {name : String} {part : Value} (member : (name, part) ∈ kind.2) :
    sizeOf part < sizeOf value := by
  simp only [asTagged?, Option.bind_eq_bind, Option.bind_eq_some_iff, Option.some.injEq]
    at tagged
  obtain ⟨_, _, _, _, _, found, rfl⟩ := tagged
  exact sizeOf_lt_of_asRecord? found member

/-- Reads a tagged record. The decoder may rely on the fields being smaller than the
record. -/
def readTagged {α : Type} (form : Form) (tag : String) (kinds : List (String × List String))
    (value : Value)
    (decode : String → (fields : Fields) →
      (∀ {name part}, (name, part) ∈ fields → sizeOf part < sizeOf value) → Option α) :
    Option α :=
  match tagged : value.asTagged? form tag kinds with
  | none => none
  | some kind => decode kind.1 kind.2 (sizeOf_lt_of_asTagged? tagged)

end Value

end ForeignBindings
