import ForeignBindings.Scalar

/-!
# Compiler builtins

The builtin types as a C front end classifies them. Only the portable ones have
a scalar; the others are kept so that a diagnostic can name them.
-/

namespace ForeignBindings

/-- A builtin type of a C compiler. -/
inductive Builtin where
  | void
  | bool
  /-- Plain `char` where it is unsigned. -/
  | charUnsigned
  /-- Plain `char` where it is signed. -/
  | charSigned
  | unsignedChar
  | signedChar
  | wideCharUnsigned
  | wideCharSigned
  | char8
  | char16
  | char32
  | unsignedShort
  | short
  | unsignedInt
  | int
  | unsignedLong
  | long
  | unsignedLongLong
  | longLong
  | float
  | double
  | longDouble
  | half
  | float16
  | brainFloat16
  | float128
  | int128
  | unsignedInt128
  | nullPointer
  /-- A type of a platform or a compiler extension, by its displayed name. -/
  | extension (name : String)
deriving DecidableEq, Repr, Inhabited

namespace Builtin

/-- The builtins that a word names; extensions carry a name of their own. -/
def named : List Builtin :=
  [void, bool, charUnsigned, charSigned, unsignedChar, signedChar, wideCharUnsigned,
    wideCharSigned, char8, char16, char32, unsignedShort, short, unsignedInt, int,
    unsignedLong, long, unsignedLongLong, longLong, float, double, longDouble, half,
    float16, brainFloat16, float128, int128, unsignedInt128, nullPointer]

/-- The word that stands for a builtin in a dump. -/
def word : Builtin → String
  | void => "Void"
  | bool => "Bool"
  | charUnsigned => "CharU"
  | charSigned => "CharS"
  | unsignedChar => "UChar"
  | signedChar => "SChar"
  | wideCharUnsigned => "WCharU"
  | wideCharSigned => "WCharS"
  | char8 => "Char8"
  | char16 => "Char16"
  | char32 => "Char32"
  | unsignedShort => "UShort"
  | short => "Short"
  | unsignedInt => "UInt"
  | int => "Int"
  | unsignedLong => "ULong"
  | long => "Long"
  | unsignedLongLong => "ULongLong"
  | longLong => "LongLong"
  | float => "Float"
  | double => "Double"
  | longDouble => "LongDouble"
  | half => "Half"
  | float16 => "Float16"
  | brainFloat16 => "BFloat16"
  | float128 => "Float128"
  | int128 => "Int128"
  | unsignedInt128 => "UInt128"
  | nullPointer => "NullPtr"
  | extension _ => "Extension"

/-- The name that diagnostics show: the word, with the platform's choice for the
character types set off by an underscore. -/
def displayName : Builtin → String
  | charUnsigned => "Char_U"
  | charSigned => "Char_S"
  | wideCharUnsigned => "WChar_U"
  | wideCharSigned => "WChar_S"
  | extension name => name
  | builtin => builtin.word

/-- Whether the front end counts the builtin among the signed integers. -/
def isSigned : Builtin → Bool
  | charSigned | signedChar | wideCharSigned | short | int | long | longLong | int128 => true
  | _ => false

end Builtin

/-- The scalar of a builtin, if it has a portable one. -/
def Scalar.ofBuiltin? : Builtin → Option Scalar
  | .void => some void
  | .bool => some ⟨.unsigned, .bool, .unsized⟩
  | .charUnsigned | .charSigned => some plainChar
  | .unsignedChar => some ⟨.unsigned, .char, .unsized⟩
  | .signedChar => some ⟨.signed, .char, .unsized⟩
  | .wideCharUnsigned | .wideCharSigned => some ⟨.unspecified, .wideChar, .unsized⟩
  | .char8 => some ⟨.unsigned, .unicodeChar, .bits8⟩
  | .char16 => some ⟨.unsigned, .unicodeChar, .bits16⟩
  | .char32 => some ⟨.unsigned, .unicodeChar, .bits32⟩
  | .unsignedShort => some ⟨.unsigned, .short, .unsized⟩
  | .short => some ⟨.signed, .short, .unsized⟩
  | .unsignedInt => some ⟨.unsigned, .int, .unsized⟩
  | .int => some ⟨.signed, .int, .unsized⟩
  | .unsignedLong => some ⟨.unsigned, .long, .unsized⟩
  | .long => some ⟨.signed, .long, .unsized⟩
  | .unsignedLongLong => some ⟨.unsigned, .longLong, .unsized⟩
  | .longLong => some ⟨.signed, .longLong, .unsized⟩
  | .float => some ⟨.signed, .float, .unsized⟩
  | .double => some ⟨.signed, .double, .unsized⟩
  | .longDouble | .half | .float16 | .brainFloat16 | .float128 | .int128 | .unsignedInt128
  | .nullPointer | .extension _ => none

end ForeignBindings
