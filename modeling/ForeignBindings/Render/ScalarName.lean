import ForeignBindings.Scalar

/-!
# Haskell names of scalars

The types of C whose width the platform decides have counterparts of their own
in Haskell, and so have the integers of a fixed width.
-/

namespace ForeignBindings

/-- The integer type of a fixed width; without a number of bits it is the native one. -/
def fixedWidthName (isUnsigned : Bool) (width : Width) : String :=
  let base := if isUnsigned then "Word" else "Int"
  match width with
  | .bits8 | .bits16 | .bits32 | .bits64 => base ++ width.text
  | .unsized | .pointer | .widest => base

/-- The Haskell type of a scalar. -/
def Scalar.haskellName (scalar : Scalar) : String :=
  let isUnsigned := scalar.sign == .unsigned
  let pick (signed unsigned : String) : String := if isUnsigned then unsigned else signed
  match scalar.family with
  | .void => "()"
  | .bool => "CBool"
  | .char => match scalar.sign with
    | .unspecified => "CChar"
    | .signed => "CSChar"
    | .unsigned => "CUChar"
  | .wideChar => "CWchar"
  | .unicodeChar => fixedWidthName true scalar.width
  | .short => pick "CShort" "CUShort"
  | .int => pick "CInt" "CUInt"
  | .long => pick "CLong" "CULong"
  | .longLong => pick "CLLong" "CULLong"
  | .float => "CFloat"
  | .double => "CDouble"
  | .pointerDifference => "CPtrdiff"
  | .size => "CSize"
  | .special =>
    if scalar.width = .widest then pick "CIntMax" "CUIntMax" else pick "CIntPtr" "CUIntPtr"
  | .exact | .least | .fast => fixedWidthName isUnsigned scalar.width

end ForeignBindings
