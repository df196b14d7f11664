import ForeignBindings.Layout.ByValue

/-!
# Layouts in words

Sizes, alignments and offsets in words of 64 bits, in which sums and products wrap
around. The search is the one that finds layouts with numbers of any size; only the
rules differ.
-/

namespace ForeignBindings

/-- The size and the alignment of a type in words. -/
structure WordLayout where
  size : UInt64
  align : UInt64
deriving DecidableEq, Repr, Inhabited

/-- The layout in words. A number that does not fit in a word wraps around. -/
def Layout.toWords (layout : Layout) : WordLayout := ⟨.ofNat layout.size, .ofNat layout.align⟩

/-- The offset rounded up to a multiple of the alignment, which may wrap around. An alignment
of zero counts as one and leaves the offset as it is. -/
def alignUpWord (offset align : UInt64) : UInt64 :=
  if align ≤ 1 then offset
  else (if offset % align = 0 then offset / align else offset / align + 1) * align

/-- The offsets of the fields of a struct, with its size and alignment, in words. -/
structure WordPlacement where
  offsets : List UInt64
  /-- The size, with the padding behind the last field. -/
  size : UInt64
  align : UInt64
deriving DecidableEq, Repr, Inhabited

/-- The placement in words. A number that does not fit in a word wraps around. -/
def Placement.toWords (placement : Placement) : WordPlacement where
  offsets := placement.offsets.map .ofNat
  size := .ofNat placement.size
  align := .ofNat placement.align

namespace WordPlacement

/-- The layout of the struct as a whole. -/
def layout (placement : WordPlacement) : WordLayout := ⟨placement.size, placement.align⟩

/-- The offsets of fields that are placed in order behind a start. -/
def offsetsFrom (start : UInt64) : List WordLayout → List UInt64
  | [] => []
  | field :: rest =>
    let offset := alignUpWord start field.align
    offset :: offsetsFrom (offset + field.size) rest

/-- The end of the last of the fields that are placed in order behind a start. -/
def endFrom (start : UInt64) : List WordLayout → UInt64
  | [] => start
  | field :: rest => endFrom (alignUpWord start field.align + field.size) rest

/-- The greatest alignment of the fields, and at least one. -/
def alignOf : List WordLayout → UInt64
  | [] => 1
  | field :: rest => max field.align (alignOf rest)

/-- Lays fields out in order. -/
def natural (fields : List WordLayout) : WordPlacement where
  offsets := offsetsFrom 0 fields
  size := alignUpWord (endFrom 0 fields) (alignOf fields)
  align := alignOf fields

end WordPlacement

namespace DataModel

/-- The rules of a data model in words. -/
def wordRules (model : DataModel) : LayoutRules WordLayout WordPlacement where
  scalar? scalar := (model.scalar? scalar).map Layout.toWords
  pointer := model.pointer.toWords
  place := WordPlacement.natural
  layout := WordPlacement.layout

/-- Searches for the layout of a type in words. -/
def wordTypeLayout (model : DataModel) (tags : NameMap Tag) (type : CType) :
    LayoutSearch (Option WordLayout) :=
  model.wordRules.typeLayout tags type

/-- Searches for the placement of the fields of a struct in words. -/
def wordStructLayout (model : DataModel) (tags : NameMap Tag) (name : String) :
    LayoutSearch (Option WordPlacement) :=
  model.wordRules.structLayout tags name

/-- The layout of a type in words. -/
def wordLayout? (model : DataModel) (tags : NameMap Tag) (type : CType) : Option WordLayout :=
  (model.wordTypeLayout tags type).answer?

/-- The placement of the fields of a struct in words. -/
def wordPlacement? (model : DataModel) (tags : NameMap Tag) (name : String) :
    Option WordPlacement :=
  (model.wordStructLayout tags name).answer?

end DataModel

end ForeignBindings
