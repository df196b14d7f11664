import ForeignBindings.NameMap
import ForeignBindings.Value.Record

/-!
# Lists and maps as values

How lists and maps are written as sequences and mappings, and read back.
-/

namespace ForeignBindings.Value

/-- A list as a sequence. -/
def ofList {α : Type} (encode : α → Value) (items : List α) : Value :=
  sequence (items.map encode)

/-- The items of a value that is a sequence. A plain scalar without any text is an empty
sequence where a sequence is wanted. -/
def asItems? : Value → Option (List Value)
  | sequence items => some items
  | plain "" => some []
  | _ => none

/-- Reads every item of a sequence. -/
def asListOf? {α : Type} (decode : Value → Option α) (value : Value) : Option (List α) := do
  (← value.asItems?).mapM decode

/-- Reads every item of a sequence. The decoder may rely on an item being smaller than the
sequence. -/
def asPartsOf? {α : Type} (value : Value)
    (decode : (item : Value) → sizeOf item < sizeOf value → Option α) : Option (List α) :=
  match value with
  | sequence items => items.attach.mapM fun ⟨item, member⟩ =>
      decode item (by
        have smaller := List.sizeOf_lt_of_mem member
        simp only [sequence.sizeOf_spec]
        omega)
  | plain "" => some []
  | _ => none

/-- A map as a mapping, in the order of the names. -/
def ofMap {α : Type} (encode : α → Value) (map : NameMap α) : Value :=
  record (map.entries.map fun entry => (entry.1, encode entry.2))

/-- Reads the value of every entry of a mapping; of entries of one name the last counts. -/
def asMapOf? {α : Type} (decode : Value → Option α) (value : Value) : Option (NameMap α) := do
  let entries ← (← value.asFields?).mapM fun entry => do
    some (entry.1, ← decode entry.2)
  some (.ofList entries)

end ForeignBindings.Value
