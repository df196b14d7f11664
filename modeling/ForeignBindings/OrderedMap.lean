/-!
# Ordered maps

An `OrderedMap` holds its entries in strictly ascending order of their keys. The
order is part of the type, so two maps with the same entries are equal and every
listing of a map is in the order of the keys. A set is a map to nothing.
-/

namespace ForeignBindings

/-- Entries whose keys strictly ascend. -/
def Ascending {κ α : Type} [LT κ] (entries : List (κ × α)) : Prop :=
  entries.Pairwise fun earlier later => earlier.1 < later.1

/-- A finite map, listed in the order of the keys. -/
structure OrderedMap (κ α : Type) [LT κ] where
  entries : List (κ × α)
  ascending : Ascending entries

/-- A finite set, listed in ascending order. -/
abbrev OrderedSet (κ : Type) [LT κ] := OrderedMap κ Unit

namespace OrderedMap

variable {κ α β : Type} [LT κ]

/-- Maps are equal when their entries are. -/
@[ext] theorem ext {left right : OrderedMap κ α} (entries : left.entries = right.entries) :
    left = right := by
  cases left; cases right; cases entries; rfl

instance [DecidableEq κ] [DecidableEq α] : DecidableEq (OrderedMap κ α) := fun left right =>
  decidable_of_iff (left.entries = right.entries)
    ⟨ext, fun equal => congrArg OrderedMap.entries equal⟩

instance [Repr κ] [Repr α] : Repr (OrderedMap κ α) where
  reprPrec map precedence := reprPrec map.entries precedence

/-- The map without entries. -/
def empty : OrderedMap κ α := ⟨[], List.Pairwise.nil⟩

instance : Inhabited (OrderedMap κ α) := ⟨empty⟩

instance : EmptyCollection (OrderedMap κ α) := ⟨empty⟩

/-- The keys in ascending order. -/
def keys (map : OrderedMap κ α) : List κ := map.entries.map Prod.fst

/-- The values in the order of their keys. -/
def values (map : OrderedMap κ α) : List α := map.entries.map Prod.snd

/-- The number of entries. -/
def size (map : OrderedMap κ α) : Nat := map.entries.length

/-- Whether the map has no entry. -/
def isEmpty (map : OrderedMap κ α) : Bool := map.entries.isEmpty

/-- Applies a function to every value. -/
def map (function : α → β) (source : OrderedMap κ α) : OrderedMap κ β :=
  ⟨source.entries.map fun entry => (entry.1, function entry.2), by
    have ascending := source.ascending
    unfold Ascending at ascending ⊢
    rw [List.pairwise_map]
    exact ascending⟩

variable [DecidableEq κ]

/-- The value under a key. -/
def find? (map : OrderedMap κ α) (key : κ) : Option α := map.entries.lookup key

/-- Whether the map has an entry under a key. -/
def contains (map : OrderedMap κ α) (key : κ) : Bool := (map.find? key).isSome

/-- Nothing is found in the map without entries. -/
@[simp] theorem find?_empty (wanted : κ) : (empty : OrderedMap κ α).find? wanted = none := rfl

omit [LT κ] in
/-- Looking a key up in a list of entries goes by the first entry of that key. -/
theorem lookup_cons_eq (wanted other : κ) (held : α) (rest : List (κ × α)) :
    ((other, held) :: rest).lookup wanted =
      if wanted = other then some held else rest.lookup wanted := by
  by_cases equal : wanted = other
  · subst equal
    simp
  · have different : (wanted == other) = false := by simpa using equal
    simp [List.lookup_cons, different, equal]

section Order

variable [LE κ] [Std.LawfulOrderLT κ]

/-- Of entries whose keys ascend, an entry is what its key finds. -/
theorem lookup_eq_some_iff {entries : List (κ × α)} (ascending : Ascending entries) {key : κ}
    {value : α} : entries.lookup key = some value ↔ (key, value) ∈ entries := by
  induction entries with
  | nil => simp
  | cons first rest inductionHypothesis =>
    obtain ⟨other, held⟩ := first
    have parts := List.pairwise_cons.mp ascending
    rw [lookup_cons_eq]
    split
    case isTrue equal =>
      subst equal
      constructor
      · intro found
        rw [Option.some.inj found]
        exact List.mem_cons_self
      · intro member
        rcases List.mem_cons.mp member with same | later
        · rw [(Prod.mk.inj same).2]
        · exact absurd (parts.1 _ later) Std.lt_irrefl
    case isFalse different =>
      have notFirst : (key, value) ≠ (other, held) := fun same => different (Prod.mk.inj same).1
      rw [inductionHypothesis parts.2, List.mem_cons]
      exact ⟨Or.inr, fun member => member.resolve_left notFirst⟩

/-- An entry of a map is what its key finds. -/
theorem mem_entries_iff {map : OrderedMap κ α} {key : κ} {value : α} :
    (key, value) ∈ map.entries ↔ map.find? key = some value :=
  (lookup_eq_some_iff map.ascending).symm

/-- A key of a map is one that finds something. -/
theorem mem_keys_iff {map : OrderedMap κ α} {key : κ} :
    key ∈ map.keys ↔ ∃ value, map.find? key = some value := by
  unfold keys
  rw [List.mem_map]
  constructor
  · rintro ⟨⟨_, value⟩, member, rfl⟩
    exact ⟨value, mem_entries_iff.mp member⟩
  · rintro ⟨value, found⟩
    exact ⟨(key, value), mem_entries_iff.mpr found, rfl⟩

omit [DecidableEq κ] in
/-- No key is listed twice. -/
theorem nodup_keys (map : OrderedMap κ α) : map.keys.Nodup := by
  have ascending := map.ascending
  unfold Ascending at ascending
  refine List.pairwise_map.mpr (ascending.imp fun precedes same => ?_)
  rw [same] at precedes
  exact Std.lt_irrefl precedes

/-- The entries of a map are its keys with what they find. -/
theorem entries_eq_map_keys (map : OrderedMap κ α) (absent : α) :
    map.entries = map.keys.map fun key => (key, (map.find? key).getD absent) := by
  unfold keys
  rw [List.map_map]
  refine (List.map_id _).symm.trans (List.map_congr_left ?_)
  rintro ⟨key, value⟩ member
  simp [mem_entries_iff.mp member]

end Order

variable [DecidableLT κ]

/-- Puts an entry in its place; one of the same key gives way to it. -/
def insertEntry (key : κ) (value : α) : List (κ × α) → List (κ × α)
  | [] => [(key, value)]
  | (other, held) :: rest =>
    if key < other then (key, value) :: (other, held) :: rest
    else if key = other then (key, value) :: rest
    else (other, held) :: insertEntry key value rest

/-- Inserting introduces no key but the given one. -/
theorem mem_insertEntry {key : κ} {value : α} {entries : List (κ × α)}
    {entry : κ × α} (member : entry ∈ insertEntry key value entries) :
    entry = (key, value) ∨ entry ∈ entries := by
  induction entries with
  | nil => simpa [insertEntry] using member
  | cons first rest inductionHypothesis =>
    obtain ⟨other, held⟩ := first
    unfold insertEntry at member
    split at member
    · simpa using member
    · split at member
      · rcases List.mem_cons.mp member with equal | member
        · exact Or.inl equal
        · exact Or.inr (List.mem_cons_of_mem _ member)
      · rcases List.mem_cons.mp member with equal | member
        · exact Or.inr (by simp [equal])
        · rcases inductionHypothesis member with equal | member
          · exact Or.inl equal
          · exact Or.inr (List.mem_cons_of_mem _ member)

/-- Looking a key up in the entries after an insertion. -/
theorem lookup_insertEntry (key wanted : κ) (value : α) (entries : List (κ × α)) :
    (insertEntry key value entries).lookup wanted =
      if wanted = key then some value else entries.lookup wanted := by
  induction entries with
  | nil => rw [insertEntry, lookup_cons_eq]
  | cons first rest inductionHypothesis =>
    obtain ⟨other, held⟩ := first
    unfold insertEntry
    split
    · rw [lookup_cons_eq]
    · split
      case isTrue same =>
        subst same
        rw [lookup_cons_eq, lookup_cons_eq]
        by_cases equal : wanted = key <;> simp [equal]
      case isFalse different =>
        rw [lookup_cons_eq, lookup_cons_eq, inductionHypothesis]
        by_cases equal : wanted = other
        · have absent : ¬ wanted = key := fun same => different (same.symm.trans equal)
          rw [if_pos equal, if_neg absent, if_pos equal]
        · rw [if_neg equal, if_neg equal]

variable [LE κ] [Std.IsLinearOrder κ] [Std.LawfulOrderLT κ]

/-- Inserting keeps the keys ascending. -/
theorem ascending_insertEntry {key : κ} {value : α} {entries : List (κ × α)}
    (ascending : Ascending entries) : Ascending (insertEntry key value entries) := by
  induction entries with
  | nil => simp [insertEntry, Ascending]
  | cons first rest inductionHypothesis =>
    obtain ⟨other, held⟩ := first
    have parts := List.pairwise_cons.mp ascending
    unfold insertEntry
    split
    case isTrue before =>
      refine List.pairwise_cons.mpr ⟨?_, ascending⟩
      intro entry member
      rcases List.mem_cons.mp member with equal | member
      · simpa [equal] using before
      · exact Std.lt_trans before (parts.1 entry member)
    case isFalse notBefore =>
      split
      case isTrue equal =>
        subst equal
        exact List.pairwise_cons.mpr ⟨parts.1, parts.2⟩
      case isFalse different =>
        refine List.pairwise_cons.mpr ⟨?_, inductionHypothesis parts.2⟩
        intro entry member
        rcases mem_insertEntry member with equal | member
        · subst equal
          exact Std.lt_of_le_of_ne (Std.not_lt.mp notBefore) (Ne.symm different)
        · exact parts.1 entry member

/-- Binds a key; an entry that the key had gives way. -/
def insert (map : OrderedMap κ α) (key : κ) (value : α) : OrderedMap κ α :=
  ⟨insertEntry key value map.entries, ascending_insertEntry map.ascending⟩

/-- Binds a key that is still free; a bound key keeps its value. -/
def insertNew (map : OrderedMap κ α) (key : κ) (value : α) : OrderedMap κ α :=
  if map.contains key then map else map.insert key value

/-- The map of a list of entries, of which the last one of a key counts. -/
def ofList (entries : List (κ × α)) : OrderedMap κ α :=
  entries.foldl (fun map entry => map.insert entry.1 entry.2) empty

/-- An inserted value is found under its key, and every other key keeps its value. -/
theorem find?_insert (map : OrderedMap κ α) (key wanted : κ) (value : α) :
    (map.insert key value).find? wanted =
      if wanted = key then some value else map.find? wanted :=
  lookup_insertEntry key wanted value map.entries

/-- Inserting adds the key to those of the map. -/
theorem mem_keys_insert {map : OrderedMap κ α} {key wanted : κ} {value : α} :
    wanted ∈ (map.insert key value).keys ↔ wanted = key ∨ wanted ∈ map.keys := by
  rw [mem_keys_iff, mem_keys_iff]
  simp only [find?_insert]
  by_cases equal : wanted = key <;> simp [equal]

/-- The first value bound to a key stays. -/
theorem find?_insertNew (map : OrderedMap κ α) (key wanted : κ) (value : α) :
    (map.insertNew key value).find? wanted =
      if wanted = key then some ((map.find? key).getD value) else map.find? wanted := by
  unfold insertNew contains
  cases held : map.find? key with
  | none => simp [find?_insert]
  | some bound =>
    by_cases equal : wanted = key
    · subst equal
      simp [held]
    · simp [equal]

end OrderedMap

namespace OrderedSet

variable {κ : Type} [LT κ] [DecidableEq κ] [DecidableLT κ] [LE κ] [Std.IsLinearOrder κ]
  [Std.LawfulOrderLT κ]

/-- Adds an element, if it is not there yet. -/
def add (set : OrderedSet κ) (element : κ) : OrderedSet κ := set.insert element ()

/-- The elements of a list. -/
def ofElements (elements : List κ) : OrderedSet κ := elements.foldl add .empty

/-- The set of the elements of a list has these elements. -/
theorem mem_keys_ofElements {elements : List κ} {wanted : κ} :
    wanted ∈ (ofElements elements).keys ↔ wanted ∈ elements := by
  have added : ∀ set : OrderedSet κ,
      wanted ∈ (elements.foldl add set).keys ↔ wanted ∈ set.keys ∨ wanted ∈ elements := by
    induction elements with
    | nil => simp
    | cons element rest inductionHypothesis =>
      intro set
      have first : wanted ∈ (set.add element).keys ↔ wanted = element ∨ wanted ∈ set.keys :=
        OrderedMap.mem_keys_insert
      rw [List.foldl_cons, inductionHypothesis, first, List.mem_cons,
        @or_comm (wanted = element), or_assoc]
  unfold ofElements
  rw [added]
  simp [OrderedMap.keys, OrderedMap.empty]

end OrderedSet

end ForeignBindings
