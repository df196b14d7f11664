import ForeignBindings.Proofs.Format.Parts
import ForeignBindings.Value.Collection
import Mathlib.Data.List.Sort

/-!
# Formats of leaves, lists and maps

A format is faithful if every encoding of a content is read back as the content
(`Value.Faithful`). Whole encodings are settled, and what is left out of them leaves them so.
A list or a map is faithful if its items are: `Value.Faithful.list` and `Value.Faithful.map`.
-/

namespace ForeignBindings

/-- A list in which every item is decoded yields all contents. -/
theorem mapM_eq_some_of_forall₂ {α β : Type} {decode : β → Option α} {items : List β}
    {contents : List α}
    (pairs : List.Forall₂ (fun content item => decode item = some content) contents items) :
    items.mapM decode = some contents := by
  induction pairs with
  | nil => rfl
  | cons first _ inductionHypothesis =>
    simp only [List.mapM_cons, first, inductionHypothesis, Option.pure_def, Option.bind_eq_bind,
      Option.bind_some]

/-- A relation that gives every item a partner gives all items partners. -/
theorem exists_forall₂ {α β : Type} {related : α → β → Prop} {items : List β}
    (each : ∀ item ∈ items, ∃ content, related content item) :
    ∃ contents, List.Forall₂ related contents items := by
  induction items with
  | nil => exact ⟨[], .nil⟩
  | cons item rest inductionHypothesis =>
    obtain ⟨⟨content, first⟩, others⟩ := List.forall_mem_cons.mp each
    obtain ⟨contents, pairs⟩ := inductionHypothesis others
    exact ⟨content :: contents, .cons first pairs⟩

namespace OrderedMap

variable {κ α : Type} [LT κ] [DecidableEq κ] [DecidableLT κ] [LE κ] [Std.IsLinearOrder κ]
  [Std.LawfulOrderLT κ]

omit [DecidableLT κ] in
/-- Maps in which every key finds the same are equal. -/
theorem eq_of_find?_eq {left right : OrderedMap κ α}
    (same : ∀ key, left.find? key = right.find? key) : left = right := by
  have irreflexive : Std.Irrefl fun first second : κ × α => first.1 < second.1 :=
    ⟨fun _ => Std.lt_irrefl⟩
  have antisymmetric : Std.Antisymm fun first second : κ × α => first.1 < second.1 :=
    ⟨fun _ _ less greater => absurd (Std.lt_trans less greater) Std.lt_irrefl⟩
  refine ext (left.ascending.eq_of_mem_iff right.ascending ?_)
  rintro ⟨key, value⟩
  rw [mem_entries_iff, mem_entries_iff, same]

/-- A list of entries of a map makes a map that agrees with it on the keys of the list. -/
theorem find?_ofList_of_mem {map : OrderedMap κ α} {entries : List (κ × α)}
    (agree : ∀ entry ∈ entries, map.find? entry.1 = some entry.2) (key : κ) :
    (ofList entries).find? key = if key ∈ entries.map Prod.fst then map.find? key else none := by
  have added : ∀ start : OrderedMap κ α,
      (entries.foldl (fun map entry => map.insert entry.1 entry.2) start).find? key =
        if key ∈ entries.map Prod.fst then map.find? key else start.find? key := by
    induction entries with
    | nil => simp
    | cons entry rest inductionHypothesis =>
      intro start
      obtain ⟨first, others⟩ := List.forall_mem_cons.mp agree
      rw [List.foldl_cons, inductionHypothesis others, find?_insert, List.map_cons]
      by_cases isFirst : key = entry.1
      · simp [isFirst, first]
      · simp only [List.mem_cons, isFirst, false_or, if_false]
  exact added empty

end OrderedMap

namespace Value

/-- A value that stays as it is when it is settled. -/
def IsSettled (value : Value) : Prop := value.settle? = some value

/-- A record of settled values is settled. -/
theorem isSettled_record {fields : Fields} (settled : ∀ field ∈ fields, field.2.IsSettled) :
    (record fields).IsSettled := by
  have entries : settleEntries? (fields.map fun field => (.text field.1, field.2)) =
      some (fields.map fun field => (.text field.1, field.2)) := by
    induction fields with
    | nil => rfl
    | cons field rest inductionHypothesis =>
      obtain ⟨first, others⟩ := List.forall_mem_cons.mp settled
      unfold IsSettled at first
      simp only [List.map_cons, settleEntries?, first, inductionHypothesis others, settle?,
        Option.bind_eq_bind, Option.bind_some]
  unfold IsSettled record
  simp only [settle?, entries, Option.map_some]

/-- A sequence of settled values is settled. The values may stand for something. -/
theorem isSettled_sequence {α : Type} {contents : List α} {items : List Value}
    (settled : List.Forall₂ (fun _ item => item.IsSettled) contents items) :
    (sequence items).IsSettled := by
  have all : settleItems? items = some items := by
    induction settled with
    | nil => rfl
    | cons first _ inductionHypothesis =>
      unfold IsSettled at first
      simp only [settleItems?, first, inductionHypothesis, Option.bind_eq_bind, Option.bind_some]
  unfold IsSettled
  simp only [settle?, all, Option.map_some]

/-- Encodings that all stay as they are when they are settled. -/
def Settled (encodings : Set Value) : Prop := ∀ value ∈ encodings, value.IsSettled

/-- A single encoding that is settled. -/
theorem settled_singleton {value : Value} (settled : value.IsSettled) : Settled {value} := by
  rintro other rfl
  exact settled

@[simp] theorem settled_text (content : String) : Settled {text content} :=
  settled_singleton rfl

@[simp] theorem settled_boolean (content : Bool) : Settled {boolean content} :=
  settled_singleton rfl

@[simp] theorem settled_natural (content : Nat) : Settled {natural content} :=
  settled_singleton rfl

@[simp] theorem settled_ofInt (content : Int) : Settled {ofInt content} :=
  settled_singleton (by cases content <;> rfl)

/-- The records of parts are settled if all encodings of the parts are. -/
theorem settled_recordsOf {parts : List Part}
    (settled : ∀ part ∈ parts, Settled part.encodings) : Settled (recordsOf parts) := by
  rintro value ⟨fields, spelt, rfl⟩
  refine isSettled_record fun field isField => ?_
  obtain ⟨part, isPart, -, encodes⟩ := spelt.exists_part isField
  exact settled part isPart _ encodes

/-- The tagged records of parts are settled if all encodings of the parts are. -/
theorem settled_taggedOf {tag kind : String} {parts : List Part}
    (settled : ∀ part ∈ parts, Settled part.encodings) : Settled (taggedOf tag kind parts) :=
  settled_recordsOf (List.forall_mem_cons.mpr ⟨settled_text kind, settled⟩)

/-- Encodings of contents, the whole one among them, that are all read back. -/
structure Faithful {α : Type} (encode : α → Value) (encodings : α → Set Value)
    (decode? : Value → Option α) : Prop where
  encode_mem : ∀ content, encode content ∈ encodings content
  decode?_eq : ∀ content, ∀ value ∈ encodings content, decode? value = some content

/-- What is written whole is read back, and so is whatever else is allowed. -/
theorem Faithful.undoes {α : Type} {encode : α → Value} {encodings : α → Set Value}
    {decode? : Value → Option α} (faithful : Faithful encode encodings decode?) (content : α) :
    decode? (encode content) = some content ∧ encode content ∈ encodings content ∧
      ∀ value ∈ encodings content, decode? value = some content := by
  have whole := faithful.encode_mem content
  have read := faithful.decode?_eq content
  exact ⟨read _ whole, whole, read⟩

/-- A format without anything to leave out. -/
theorem faithful_single {α : Type} {encode : α → Value} {decode? : Value → Option α}
    (undoes : ∀ content, decode? (encode content) = some content) :
    Faithful encode (fun content => {encode content}) decode? where
  encode_mem _ := rfl
  decode?_eq content value same := by
    obtain rfl : value = encode content := same
    exact undoes content

/-- Texts are read back. -/
theorem faithful_text : Faithful text (fun content => {text content}) asText? :=
  faithful_single fun _ => rfl

/-- Truth values are read back. -/
theorem faithful_boolean : Faithful boolean (fun content => {boolean content}) asBoolean? :=
  faithful_single fun _ => rfl

/-- Members of a list are read back from words that tell them apart. -/
theorem faithful_word {α : Type} {members : List α} {word : α → String} (form : Form)
    (found : ∀ content, members.find? (fun member => word member == word content) = some content) :
    Faithful (fun content => text (word content)) (fun content => {text (word content)})
      (asOneOf? form members word) :=
  faithful_single found

/-- Integers of 64 bits with a sign are read back. -/
theorem faithful_integer : Faithful (fun content : Int64 => ofInt content.toInt)
    (fun content => {ofInt content.toInt}) asInt64? := by
  refine faithful_single fun content => ?_
  have integer : (ofInt content.toInt).asInteger? = some content.toInt := by
    cases content.toInt <;> rfl
  have fits : Int64.minValue.toInt ≤ content.toInt ∧ content.toInt ≤ Int64.maxValue.toInt :=
    ⟨content.le_toInt, content.toInt_le⟩
  simp only [asInt64?, integer, Option.bind_eq_bind, Option.bind_some, if_pos fits,
    Int64.ofInt_toInt]

/-- Integers of 32 bits without a sign are read back. -/
theorem faithful_natural : Faithful (fun content : UInt32 => natural content.toNat)
    (fun content => {natural content.toNat}) asUInt32? := by
  refine faithful_single fun content => ?_
  have fits : content.toNat < Nat.pow 2 32 := content.toNat_lt
  simp only [asUInt32?, asNatural?, asUnsigned?, Option.bind_eq_bind, Option.bind_some,
    if_pos fits, Option.map_some, UInt32.ofNat_toNat]

section List

variable {α : Type}

/-- The sequences of encodings of the items of a list. -/
def listsOf (encodings : α → Set Value) (items : List α) : Set Value :=
  {value | ∃ values, List.Forall₂ (fun item value => value ∈ encodings item) items values ∧
    value = .sequence values}

/-- Sequences that are made item by item. -/
theorem image_sequence_eq_listsOf {encodings : α → Set Value} (all : List α → Set (List Value))
    (nil : all [] = {[]})
    (cons : ∀ item rest, all (item :: rest) = Set.image2 List.cons (encodings item) (all rest))
    (items : List α) : sequence '' all items = listsOf encodings items := by
  have allItems : ∀ values, values ∈ all items ↔
      List.Forall₂ (fun item value => value ∈ encodings item) items values := by
    induction items with
    | nil => simp [nil]
    | cons item rest inductionHypothesis =>
      intro values
      rw [cons, List.forall₂_cons_left_iff, Set.mem_image2]
      constructor
      · rintro ⟨first, isFirst, others, areOthers, rfl⟩
        exact ⟨first, others, isFirst, (inductionHypothesis others).mp areOthers, rfl⟩
      · rintro ⟨first, others, isFirst, areOthers, rfl⟩
        exact ⟨first, isFirst, others, (inductionHypothesis others).mpr areOthers, rfl⟩
  ext value
  constructor
  · rintro ⟨values, areItems, rfl⟩
    exact ⟨values, (allItems values).mp areItems, rfl⟩
  · rintro ⟨values, pairs, rfl⟩
    exact ⟨values, (allItems values).mpr pairs, rfl⟩

/-- The sequence of one encoding of each item of a list. -/
theorem ofList_mem_listsOf {encode : α → Value} {encodings : α → Set Value} {items : List α}
    (encode_mem : ∀ item ∈ items, encode item ∈ encodings item) :
    ofList encode items ∈ listsOf encodings items := by
  refine ⟨items.map encode, ?_, rfl⟩
  rw [List.forall₂_map_right_iff, List.forall₂_same]
  exact encode_mem

/-- A list is settled if the encodings of its items are. -/
@[simp] theorem settled_listsOf {encodings : α → Set Value} {items : List α}
    (settled : ∀ item ∈ items, Settled (encodings item)) : Settled (listsOf encodings items) := by
  rintro value ⟨values, pairs, rfl⟩
  refine isSettled_sequence (((List.forall₂_and_left _ _).mpr ⟨settled, pairs⟩).imp ?_)
  exact fun item value related => related.1 value related.2

/-- A list is read back if its items are. -/
theorem Faithful.list {encode : α → Value} {encodings : α → Set Value}
    {decode? : Value → Option α} (items : Faithful encode encodings decode?) :
    Faithful (ofList encode) (listsOf encodings) (asListOf? decode?) where
  encode_mem _ := ofList_mem_listsOf fun content _ => items.encode_mem content
  decode?_eq contents value member := by
    obtain ⟨values, pairs, rfl⟩ := member
    exact mapM_eq_some_of_forall₂ (pairs.imp fun content value => items.decode?_eq content value)

/-- A sequence is read back if its items are, however large. -/
theorem asPartsOf?_sequence {contents : List α} {items : List Value}
    {decode : (item : Value) → sizeOf item < sizeOf (sequence items) → Option α}
    (pairs : List.Forall₂ (fun content item => ∀ smaller, decode item smaller = some content)
      contents items) : (sequence items).asPartsOf? decode = some contents := by
  unfold asPartsOf?
  have attached : List.Forall₂ (fun content item => ∀ smaller, decode item smaller = some content)
      contents (items.attach.map Subtype.val) := by
    rw [List.attach_map_subtype_val]
    exact pairs
  refine mapM_eq_some_of_forall₂ ((List.forall₂_map_right_iff.mp attached).imp ?_)
  exact fun content item reads => reads _

end List

section Map

variable {α : Type}

/-- What a mapping may hold under a name: an encoding of what the name is bound to. -/
inductive OccursAs (encodings : α → Set Value) : Option α → List Value → Prop
  | bound {content : α} {value : Value} :
      value ∈ encodings content → OccursAs encodings (some content) [value]
  | unbound : OccursAs encodings none []

/-- The mappings of the names of a map to encodings of what they are bound to, in any order. -/
def mapsOf (encodings : α → Set Value) (map : NameMap α) : Set Value :=
  {value | ∃ fields : Fields,
    (∀ name, OccursAs encodings (map.find? name) (fields.occurrences name)) ∧
      value = .record fields}

variable {encodings : α → Set Value} {fields : Fields}

/-- A field is an encoding of what its name is bound to. -/
theorem exists_of_occursAs {map : NameMap α}
    (occurs : ∀ name, OccursAs encodings (map.find? name) (fields.occurrences name))
    {field : String × Value} (member : field ∈ fields) :
    ∃ content, map.find? field.1 = some content ∧ field.2 ∈ encodings content := by
  have found := occurs field.1
  have among : field.2 ∈ fields.occurrences field.1 := Fields.mem_occurrences.mpr member
  generalize fields.occurrences field.1 = values at found among
  generalize map.find? field.1 = bound at found
  cases found with
  | bound encodes => exact ⟨_, rfl, List.mem_singleton.mp among ▸ encodes⟩
  | unbound => cases among

/-- The entries of a map, each encoded. -/
theorem occursAs_entries {encode : α → Value}
    (encode_mem : ∀ content, encode content ∈ encodings content) (map : NameMap α)
    (name : String) :
    OccursAs encodings (map.find? name)
      (Fields.occurrences (map.entries.map fun entry => (entry.1, encode entry.2)) name) := by
  cases bound : map.find? name with
  | none =>
    have absent : Fields.occurrences
        (map.entries.map fun entry => (entry.1, encode entry.2)) name = [] := by
      refine List.eq_nil_iff_forall_not_mem.mpr fun value among => ?_
      obtain ⟨⟨key, content⟩, isEntry, same⟩ := List.mem_map.mp (Fields.mem_occurrences.mp among)
      obtain ⟨rfl, -⟩ := Prod.mk.inj same
      rw [OrderedMap.mem_entries_iff, bound] at isEntry
      cases isEntry
    rw [absent]
    exact .unbound
  | some content =>
    have names : ((map.entries.map fun entry => (entry.1, encode entry.2)).map Prod.fst).Nodup := by
      rw [List.map_map]
      exact map.nodup_keys
    have isField : (name, encode content) ∈
        map.entries.map fun entry => (entry.1, encode entry.2) :=
      List.mem_map.mpr ⟨_, OrderedMap.mem_entries_iff.mpr bound, rfl⟩
    rw [Fields.occurrences_of_nodup names isField]
    exact .bound (encode_mem content)

/-- The entries that the fields of a mapping stand for make the map again. -/
theorem ofList_of_occursAs {map : NameMap α}
    (occurs : ∀ name, OccursAs encodings (map.find? name) (fields.occurrences name))
    {entries : List (String × α)} (names : entries.map Prod.fst = fields.map Prod.fst)
    (agree : ∀ entry ∈ entries, map.find? entry.1 = some entry.2) :
    OrderedMap.ofList entries = map := by
  refine OrderedMap.eq_of_find?_eq fun name => ?_
  rw [OrderedMap.find?_ofList_of_mem agree, names]
  split
  case isTrue => rfl
  case isFalse absent =>
    -- Whatever the map binds occurs among the fields.
    have either := occurs name
    generalize map.find? name = content at either
    generalize found : fields.occurrences name = values at either
    cases either with
    | unbound => rfl
    | bound encodes =>
      have isField := Fields.mem_of_occurs found
      exact absurd (List.mem_map_of_mem isField) absent

/-- A map is read back if what its names are bound to is. -/
theorem Faithful.map {encode : α → Value} {decode? : Value → Option α}
    (items : Faithful encode encodings decode?) :
    Faithful (ofMap encode) (mapsOf encodings) (asMapOf? decode?) where
  encode_mem map := ⟨_, occursAs_entries items.encode_mem map, rfl⟩
  decode?_eq map value member := by
    obtain ⟨fields, occurs, rfl⟩ := member
    have each : ∀ field ∈ fields, ∃ entry : String × α,
        (do some (field.1, ← decode? field.2) : Option (String × α)) = some entry ∧
          entry.1 = field.1 ∧ map.find? entry.1 = some entry.2 := by
      intro field isField
      obtain ⟨content, bound, encodes⟩ := exists_of_occursAs occurs isField
      exact ⟨(field.1, content), by simp [items.decode?_eq content _ encodes], rfl, bound⟩
    obtain ⟨entries, pairs⟩ := exists_forall₂ each
    have read := mapM_eq_some_of_forall₂ (pairs.imp fun _ _ related => related.1)
    have names : entries.map Prod.fst = fields.map Prod.fst := by
      rw [← List.forall₂_eq_eq_eq, List.forall₂_map_left_iff, List.forall₂_map_right_iff]
      exact pairs.imp fun _ _ related => related.2.1
    have agree : ∀ entry ∈ entries, map.find? entry.1 = some entry.2 := by
      intro entry isEntry
      obtain ⟨place, inside, rfl⟩ := List.mem_iff_getElem.mp isEntry
      exact (pairs.get inside (pairs.length_eq ▸ inside)).2.2
    unfold asMapOf? asFields?
    simp only [asRecord?_record, Option.bind_eq_bind, Option.bind_some] at read ⊢
    rw [read, Option.bind_some, ofList_of_occursAs occurs names agree]

end Map

end Value

end ForeignBindings
