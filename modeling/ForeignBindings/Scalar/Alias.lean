import ForeignBindings.Scalar

/-!
# Standard typedef names

The names that the C standard gives to scalars of a fixed meaning, such as
`uint32_t`, `size_t` and `char16_t`. `Scalar.ofAlias?` reads a name;
`Alias.spelling` writes every name that it accepts, from the parts that the
spelling shows.
-/

namespace ForeignBindings

/-- The standard integer typedefs differ in what they promise about their width. -/
inductive IntegerPromise where
  | exact
  | least
  | fast
deriving DecidableEq, Repr

/-- The widths in bits that standard integer typedefs name. -/
inductive BitCount where
  | bits8
  | bits16
  | bits32
  | bits64
deriving DecidableEq, Repr

namespace BitCount

/-- Every bit count. -/
def all : List BitCount := [bits8, bits16, bits32, bits64]

/-- The decimal digits of the bit count. -/
def digits : BitCount → String
  | bits8 => "8"
  | bits16 => "16"
  | bits32 => "32"
  | bits64 => "64"

/-- The width of a scalar with that many bits. -/
def width : BitCount → Width
  | bits8 => .bits8
  | bits16 => .bits16
  | bits32 => .bits32
  | bits64 => .bits64

end BitCount

/-- A standard typedef name, by its meaning. -/
inductive Alias where
  | wideChar
  | char8
  | char16
  | char32
  | size
  | pointerDifference
  | pointerInteger (unsigned : Bool)
  | widestInteger (unsigned : Bool)
  | integer (unsigned : Bool) (promise : IntegerPromise) (bits : BitCount)
deriving DecidableEq, Repr

namespace Alias

/-- The sign that the leading letter `u` of an integer typedef states. -/
def sign (unsigned : Bool) : Signedness := if unsigned then .unsigned else .signed

/-- The scalar that the name denotes. -/
def scalar : Alias → Scalar
  | wideChar => ⟨.unspecified, .wideChar, .unsized⟩
  | char8 => ⟨.unsigned, .unicodeChar, .bits8⟩
  | char16 => ⟨.unsigned, .unicodeChar, .bits16⟩
  | char32 => ⟨.unsigned, .unicodeChar, .bits32⟩
  | size => ⟨.unspecified, .size, .unsized⟩
  | pointerDifference => ⟨.unspecified, .pointerDifference, .unsized⟩
  | pointerInteger unsigned => ⟨sign unsigned, .special, .pointer⟩
  | widestInteger unsigned => ⟨sign unsigned, .special, .widest⟩
  | integer unsigned .exact bits => ⟨sign unsigned, .exact, bits.width⟩
  | integer unsigned .least bits => ⟨sign unsigned, .least, bits.width⟩
  | integer unsigned .fast bits => ⟨sign unsigned, .fast, bits.width⟩

/-- An integer typedef: an optional `u`, `int`, the part that varies, `_t`. -/
def integerSpelling (unsigned : Bool) (body : String) : String :=
  (if unsigned then "u" else "") ++ "int" ++ body ++ "_t"

/-- The name as C writes it. -/
def spelling : Alias → String
  | wideChar => "wchar_t"
  | char8 => "char8_t"
  | char16 => "char16_t"
  | char32 => "char32_t"
  | size => "size_t"
  | pointerDifference => "ptrdiff_t"
  | pointerInteger unsigned => integerSpelling unsigned "ptr"
  | widestInteger unsigned => integerSpelling unsigned "max"
  | integer unsigned .exact bits => integerSpelling unsigned bits.digits
  | integer unsigned .least bits => integerSpelling unsigned ("_least" ++ bits.digits)
  | integer unsigned .fast bits => integerSpelling unsigned ("_fast" ++ bits.digits)

/-- The part of an integer typedef between `int` and `_t`, with its sign. -/
def integerBody? (name : List Char) : Option (Bool × List Char) := do
  let (unsigned, rest) := match name with
    | 'u' :: rest => (true, rest)
    | _ => (false, name)
  let body ← "int".toList.isPrefixOf? rest
  let reversedBody ← "_t".toList.reverse.isPrefixOf? body.reverse
  return (unsigned, reversedBody.reverse)

/-- The bit count that the digits name. -/
def bitCount? (digits : List Char) : Option BitCount :=
  BitCount.all.find? fun bits => bits.digits.toList == digits

/-- Reads the varying part of an integer typedef. -/
def ofIntegerBody? (unsigned : Bool) (body : List Char) : Option Alias :=
  if body = "ptr".toList then some (pointerInteger unsigned)
  else if body = "max".toList then some (widestInteger unsigned)
  else match "_least".toList.isPrefixOf? body, "_fast".toList.isPrefixOf? body with
    | some digits, _ => (bitCount? digits).map (integer unsigned .least)
    | none, some digits => (bitCount? digits).map (integer unsigned .fast)
    | none, none => (bitCount? body).map (integer unsigned .exact)

/-- Recognizes a standard typedef name. -/
def ofName? (name : String) : Option Alias :=
  match name with
  | "wchar_t" => some wideChar
  | "char8_t" => some char8
  | "char16_t" => some char16
  | "char32_t" => some char32
  | "size_t" => some size
  | "ptrdiff_t" => some pointerDifference
  | _ => do
    let (unsigned, body) ← integerBody? name.toList
    ofIntegerBody? unsigned body

end Alias

/-- The scalar that a standard typedef name denotes. -/
def Scalar.ofAlias? (name : String) : Option Scalar :=
  (Alias.ofName? name).map Alias.scalar

end ForeignBindings
