/-!
# Scalar types

Scalars are the leaves of the type model. Three independent facts describe one:
its signedness, the family of C types that it belongs to, and a width for the
families that fix one. This module holds the facts and how they are written;
`Scalar.Builtin` and `Scalar.Alias` say which compiler builtins and which
standard typedef names denote which scalar.
-/

namespace ForeignBindings

/-- Whether a scalar is signed. -/
inductive Signedness where
  | unsigned
  | signed
  /-- No signedness applies, or the platform decides it. -/
  | unspecified
deriving DecidableEq, Repr, Inhabited

/-- The family of C types that a scalar belongs to. -/
inductive Family where
  | void
  | bool
  | char
  | wideChar
  /-- The character types of a fixed width, such as `char16_t`. -/
  | unicodeChar
  | short
  | int
  | long
  | longLong
  | float
  | double
  | pointerDifference
  | size
  /-- The integers as wide as a pointer, or as wide as any integer. -/
  | special
  | exact
  | least
  | fast
deriving DecidableEq, Repr, Inhabited

/-- The width that a scalar of a fixed-width family fixes. -/
inductive Width where
  | unsized
  | bits8
  | bits16
  | bits32
  | bits64
  | pointer
  | widest
deriving DecidableEq, Repr, Inhabited

/-- A scalar type. -/
structure Scalar where
  sign : Signedness
  family : Family
  width : Width
deriving DecidableEq, Repr, Inhabited

namespace Signedness

/-- Every signedness. -/
def all : List Signedness := [unsigned, signed, unspecified]

/-- The word that names a signedness. -/
def word : Signedness → String
  | unsigned => "Unsigned"
  | signed => "Signed"
  | unspecified => "Unspecified"

end Signedness

namespace Family

/-- Every family. -/
def all : List Family :=
  [void, bool, char, wideChar, unicodeChar, short, int, long, longLong, float, double,
    pointerDifference, size, special, exact, least, fast]

/-- The word that names a family. -/
def word : Family → String
  | void => "Void"
  | bool => "Bool"
  | char => "Char"
  | wideChar => "WChar"
  | unicodeChar => "UniChar"
  | short => "Short"
  | int => "Int"
  | long => "Long"
  | longLong => "LLong"
  | float => "Float"
  | double => "Double"
  | pointerDifference => "Ptrdiff"
  | size => "Size"
  | special => "Special"
  | exact => "Exact"
  | least => "Least"
  | fast => "Fast"

end Family

namespace Width

/-- Every width. -/
def all : List Width := [unsized, bits8, bits16, bits32, bits64, pointer, widest]

/-- The word that names a width. -/
def word : Width → String
  | unsized => "None"
  | bits8 => "W8"
  | bits16 => "W16"
  | bits32 => "W32"
  | bits64 => "W64"
  | pointer => "Ptr"
  | widest => "Max"

/-- The width as type names carry it; the text of an absent width is empty. -/
def text : Width → String
  | unsized => ""
  | bits8 => "8"
  | bits16 => "16"
  | bits32 => "32"
  | bits64 => "64"
  | pointer => "Ptr"
  | widest => "Max"

/-- The number of bytes, for the widths that are numbers. -/
def bytes? : Width → Option Nat
  | bits8 => some 1
  | bits16 => some 2
  | bits32 => some 4
  | bits64 => some 8
  | unsized | pointer | widest => none

end Width

namespace Scalar

/-- The type without values. -/
def void : Scalar := ⟨.unspecified, .void, .unsized⟩

/-- Plain `char`, which is neither `signed char` nor `unsigned char`. -/
def plainChar : Scalar := ⟨.unspecified, .char, .unsized⟩

/-- A scalar is void when its family is, whatever its sign and width say. -/
def isVoid (scalar : Scalar) : Bool := scalar.family == .void

/-- Whether the scalar is plain `char`. -/
def isPlainChar (scalar : Scalar) : Bool := scalar == plainChar

/-- Sign and family, then the width if there is one. -/
def display (scalar : Scalar) : String :=
  let base := scalar.sign.word ++ " " ++ scalar.family.word
  if scalar.width = .unsized then base else base ++ " " ++ scalar.width.text

end Scalar

end ForeignBindings
