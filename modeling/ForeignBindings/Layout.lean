/-!
# Natural layout

Sizes, alignments and offsets are numbers of bytes, without an upper bound. A
struct is laid out naturally: each field starts at the end of the one before it,
rounded up to its alignment, and the struct is as aligned as its most aligned
field.
-/

namespace ForeignBindings

/-- The size and the alignment of a type. -/
structure Layout where
  size : Nat
  align : Nat
deriving DecidableEq, Repr, Inhabited

/-- The layout of a type that is aligned to its own size. -/
def Layout.ofSize (size : Nat) : Layout := ⟨size, size⟩

/-- The least multiple of the alignment that the offset does not exceed. An alignment of
zero counts as one and leaves the offset as it is. -/
def alignUp (offset align : Nat) : Nat :=
  if align ≤ 1 then offset else (offset + align - 1) / align * align

/-- The offsets of the fields of a struct, with its size and alignment. -/
structure Placement where
  offsets : List Nat
  /-- The size, with the padding behind the last field. -/
  size : Nat
  align : Nat
deriving DecidableEq, Repr, Inhabited

namespace Placement

/-- The layout of the struct as a whole. -/
def layout (placement : Placement) : Layout := ⟨placement.size, placement.align⟩

/-- The offsets of fields that are placed in order behind a start. -/
def offsetsFrom (start : Nat) : List Layout → List Nat
  | [] => []
  | field :: rest =>
    let offset := alignUp start field.align
    offset :: offsetsFrom (offset + field.size) rest

/-- The end of the last of the fields that are placed in order behind a start. -/
def endFrom (start : Nat) : List Layout → Nat
  | [] => start
  | field :: rest => endFrom (alignUp start field.align + field.size) rest

/-- The greatest alignment of the fields, and at least one. -/
def alignOf : List Layout → Nat
  | [] => 1
  | field :: rest => max field.align (alignOf rest)

/-- Lays fields out in order. -/
def natural (fields : List Layout) : Placement where
  offsets := offsetsFrom 0 fields
  size := alignUp (endFrom 0 fields) (alignOf fields)
  align := alignOf fields

end Placement

end ForeignBindings
