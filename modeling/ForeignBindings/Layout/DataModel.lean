import ForeignBindings.Layout
import ForeignBindings.Scalar

/-!
# C data models

The sizes and alignments of scalars and pointers on the platforms that bindings
are generated for.
-/

namespace ForeignBindings

/-- A C data model. -/
inductive DataModel where
  /-- Unix on 64 bits: `long` and pointers have 8 bytes. -/
  | lp64
  /-- Windows on 64 bits: `long` has 4 bytes, `wchar_t` has 2. -/
  | llp64
  /-- Unix on 32 bits: pointers have 4 bytes, and no scalar is aligned to more than 4. -/
  | ilp32
deriving DecidableEq, Repr, Inhabited

namespace DataModel

/-- Every data model. -/
def all : List DataModel := [lp64, llp64, ilp32]

/-- The word that names a data model. -/
def word : DataModel → String
  | lp64 => "lp64"
  | llp64 => "llp64"
  | ilp32 => "ilp32"

/-- The number of bytes of a pointer. -/
def pointerSize : DataModel → Nat
  | lp64 | llp64 => 8
  | ilp32 => 4

/-- The layout of a pointer. -/
def pointer (model : DataModel) : Layout := .ofSize model.pointerSize

/-- The number of bytes of a scalar, if it has a size. The families that fix a width are as
wide as they promise at least. -/
def scalarSize? (model : DataModel) (scalar : Scalar) : Option Nat :=
  match scalar.family with
  | .void => none
  | .bool | .char => some 1
  | .wideChar => match model with
    | lp64 | ilp32 => some 4
    | llp64 => some 2
  | .short => some 2
  | .int | .float => some 4
  | .long => match model with
    | lp64 => some 8
    | llp64 | ilp32 => some 4
  | .longLong | .double => some 8
  | .pointerDifference | .size => some model.pointerSize
  | .special => if scalar.width = .widest then some 8 else some model.pointerSize
  | .unicodeChar | .exact | .least | .fast => scalar.width.bytes?

/-- The alignment of a scalar of the given size. -/
def scalarAlign (model : DataModel) (size : Nat) : Nat :=
  match model with
  | lp64 | llp64 => size
  | ilp32 => min size 4

/-- The layout of a scalar, if it has a size. -/
def scalar? (model : DataModel) (scalar : Scalar) : Option Layout :=
  (model.scalarSize? scalar).map fun size => ⟨size, model.scalarAlign size⟩

end DataModel

end ForeignBindings
