import Mathlib.Data.List.Basic
import Mathlib.Data.Set.Function
import ForeignBindings.Scalar.Alias

/-!
# The standard typedef names

Which names denote a scalar is said here by a relation between names and scalars, as the standard
writes them: a list of fixed names, and the integers, with the letter of the sign, the part that
varies, and the marks around them. The function that recognizes names finds a scalar just where the
relation has one, and the name can be read back from the scalar: `standard_names_recognized`.
-/

namespace ForeignBindings

namespace Width

/-- The decimal digits that spell a number of bits. -/
inductive IsBits : Width → String → Prop where
  | bits8 : IsBits .bits8 "8"
  | bits16 : IsBits .bits16 "16"
  | bits32 : IsBits .bits32 "32"
  | bits64 : IsBits .bits64 "64"

/-- The digits of a width that is a number of bits. -/
def bits? : Width → Option String
  | bits8 => some "8"
  | bits16 => some "16"
  | bits32 => some "32"
  | bits64 => some "64"
  | unsized | pointer | widest => none

/-- What is read off a width is the digits of its number of bits. -/
theorem isBits_of_bits? {width : Width} {digits : String} (read : width.bits? = some digits) :
    width.IsBits digits := by
  cases width with
  | unsized | pointer | widest => cases read
  | bits8 | bits16 | bits32 | bits64 =>
    cases read
    constructor

end Width

namespace Scalar

/-- The part of the name of an integer type that says its family and its width. -/
inductive IsIntegerKind : Family → Width → String → Prop where
  | pointer : IsIntegerKind .special .pointer "ptr"
  | widest : IsIntegerKind .special .widest "max"
  | exact {width : Width} {digits : String} (bits : width.IsBits digits) :
      IsIntegerKind .exact width digits
  | least {width : Width} {digits : String} (bits : width.IsBits digits) :
      IsIntegerKind .least width ("_least" ++ digits)
  | fast {width : Width} {digits : String} (bits : width.IsBits digits) :
      IsIntegerKind .fast width ("_fast" ++ digits)

/-- The names that the standard gives to scalars. -/
inductive IsSpelled : Scalar → String → Prop where
  | wideChar : IsSpelled ⟨.unspecified, .wideChar, .unsized⟩ "wchar_t"
  | char8 : IsSpelled ⟨.unsigned, .unicodeChar, .bits8⟩ "char8_t"
  | char16 : IsSpelled ⟨.unsigned, .unicodeChar, .bits16⟩ "char16_t"
  | char32 : IsSpelled ⟨.unsigned, .unicodeChar, .bits32⟩ "char32_t"
  | size : IsSpelled ⟨.unspecified, .size, .unsized⟩ "size_t"
  | pointerDifference : IsSpelled ⟨.unspecified, .pointerDifference, .unsized⟩ "ptrdiff_t"
  | signedInteger {family : Family} {width : Width} {kind : String}
      (isKind : IsIntegerKind family width kind) :
      IsSpelled ⟨.signed, family, width⟩ ("int" ++ kind ++ "_t")
  | unsignedInteger {family : Family} {width : Width} {kind : String}
      (isKind : IsIntegerKind family width kind) :
      IsSpelled ⟨.unsigned, family, width⟩ ("uint" ++ kind ++ "_t")

/-- The part of the name of an integer type that says the family and the width, where they are
those of an integer type. -/
def integerKind? : Family → Width → Option String
  | .special, .pointer => some "ptr"
  | .special, .widest => some "max"
  | .exact, width => width.bits?
  | .least, width => width.bits?.map ("_least" ++ ·)
  | .fast, width => width.bits?.map ("_fast" ++ ·)
  | _, _ => none

/-- The standard name of a scalar, read off its parts. -/
def standardName? : Scalar → Option String
  | ⟨.unspecified, .wideChar, .unsized⟩ => some "wchar_t"
  | ⟨.unsigned, .unicodeChar, .bits8⟩ => some "char8_t"
  | ⟨.unsigned, .unicodeChar, .bits16⟩ => some "char16_t"
  | ⟨.unsigned, .unicodeChar, .bits32⟩ => some "char32_t"
  | ⟨.unspecified, .size, .unsized⟩ => some "size_t"
  | ⟨.unspecified, .pointerDifference, .unsized⟩ => some "ptrdiff_t"
  | ⟨.signed, family, width⟩ => (integerKind? family width).map fun kind => "int" ++ kind ++ "_t"
  | ⟨.unsigned, family, width⟩ => (integerKind? family width).map fun kind => "uint" ++ kind ++ "_t"
  | ⟨.unspecified, _, _⟩ => none

end Scalar

namespace Alias

/-- The digits in the name of an integer type are those of a number of bits. -/
theorem isBits_of_bitCount? {digits : List Char} {bits : BitCount}
    (found : bitCount? digits = some bits) : bits.width.IsBits (.ofList digits) := by
  have sameDigits := List.find?_some found
  obtain rfl := eq_of_beq sameDigits
  rw [String.ofList_toList]
  cases bits with
  | bits8 => exact .bits8
  | bits16 => exact .bits16
  | bits32 => exact .bits32
  | bits64 => exact .bits64

/-- What is read between the marks of an integer type says the family and the width. -/
theorem isIntegerKind_of_ofIntegerBody? {unsigned : Bool} {body : List Char} {standard : Alias}
    (read : ofIntegerBody? unsigned body = some standard) :
    ∃ family width, standard.scalar = ⟨sign unsigned, family, width⟩ ∧
      Scalar.IsIntegerKind family width (.ofList body) := by
  revert read
  fun_cases ofIntegerBody? unsigned body with
  | case1 isPointer =>
    rintro ⟨⟩
    exact ⟨_, _, rfl, isPointer ▸ .pointer⟩
  | case2 _ isWidest =>
    rintro ⟨⟩
    exact ⟨_, _, rfl, isWidest ▸ .widest⟩
  | case3 _ _ digits isLeast =>
    intro read
    obtain ⟨bits, found, rfl⟩ := Option.map_eq_some_iff.mp read
    obtain rfl := List.isPrefixOf?_eq_some_iff_append_eq.mp isLeast
    rw [String.ofList_append]
    exact ⟨_, _, rfl, .least (isBits_of_bitCount? found)⟩
  | case4 _ _ digits isFast =>
    intro read
    obtain ⟨bits, found, rfl⟩ := Option.map_eq_some_iff.mp read
    obtain rfl := List.isPrefixOf?_eq_some_iff_append_eq.mp isFast
    rw [String.ofList_append]
    exact ⟨_, _, rfl, .fast (isBits_of_bitCount? found)⟩
  | case5 =>
    intro read
    obtain ⟨bits, found, rfl⟩ := Option.map_eq_some_iff.mp read
    exact ⟨_, _, rfl, .exact (isBits_of_bitCount? found)⟩

/-- The name of an integer type has the letter of its sign and the marks around what varies. -/
theorem eq_of_integerBody? {name : String} {unsigned : Bool} {body : List Char}
    (read : integerBody? name.toList = some (unsigned, body)) :
    name = (if unsigned then "uint" else "int") ++ .ofList body ++ "_t" := by
  unfold integerBody? at read
  split at read
  case h_1 sign rest isSplit =>
    have isName : name.toList = (if sign then ['u'] else []) ++ rest := by
      split at isSplit <;> cases isSplit <;> simp [*]
    obtain ⟨marked, isInt, read⟩ := Option.bind_eq_some_iff.mp read
    obtain ⟨reversed, isMarked, isRead⟩ := Option.bind_eq_some_iff.mp read
    cases isRead
    obtain rfl := List.isPrefixOf?_eq_some_iff_append_eq.mp isInt
    have isBody := congrArg List.reverse (List.isPrefixOf?_eq_some_iff_append_eq.mp isMarked)
    rw [List.reverse_append, List.reverse_reverse, List.reverse_reverse] at isBody
    rw [← String.toList_inj, isName, ← isBody]
    cases unsigned <;> simp

end Alias

namespace Scalar

/-- A name that is recognized is the standard name of the scalar. -/
theorem isSpelled_of_ofAlias? {name : String} {scalar : Scalar}
    (recognized : ofAlias? name = some scalar) : scalar.IsSpelled name := by
  obtain ⟨standard, read, rfl⟩ := Option.map_eq_some_iff.mp recognized
  unfold Alias.ofName? at read
  split at read
  case h_7 =>
    obtain ⟨⟨unsigned, body⟩, isInteger, read⟩ := Option.bind_eq_some_iff.mp read
    obtain ⟨family, width, isScalar, isKind⟩ := Alias.isIntegerKind_of_ofIntegerBody? read
    rw [isScalar, Alias.eq_of_integerBody? isInteger]
    cases unsigned with
    | true => exact .unsignedInteger isKind
    | false => exact .signedInteger isKind
  all_goals
    cases read
    constructor

/-- The standard name of a scalar is recognized, and is read off the parts of the scalar. -/
theorem IsSpelled.recognized_and_recovered {name : String} {scalar : Scalar}
    (spelled : scalar.IsSpelled name) :
    ofAlias? name = some scalar ∧ scalar.standardName? = some name := by
  cases spelled with
  | signedInteger isKind | unsignedInteger isKind =>
    cases isKind with
    | exact bits | least bits | fast bits => cases bits <;> decide
    | _ => decide
  | _ => decide

/-- What is read off the family and the width of an integer type says them. -/
theorem isIntegerKind_of_integerKind? {family : Family} {width : Width} {kind : String}
    (read : integerKind? family width = some kind) : IsIntegerKind family width kind := by
  unfold integerKind? at read
  split at read
  case h_1 =>
    cases read
    exact .pointer
  case h_2 =>
    cases read
    exact .widest
  case h_3 => exact .exact (Width.isBits_of_bits? read)
  case h_4 =>
    obtain ⟨digits, isDigits, rfl⟩ := Option.map_eq_some_iff.mp read
    exact .least (Width.isBits_of_bits? isDigits)
  case h_5 =>
    obtain ⟨digits, isDigits, rfl⟩ := Option.map_eq_some_iff.mp read
    exact .fast (Width.isBits_of_bits? isDigits)
  case h_6 => cases read

/-- What is read off the parts of a scalar is its standard name. -/
theorem isSpelled_of_standardName? {name : String} {scalar : Scalar}
    (named : scalar.standardName? = some name) : scalar.IsSpelled name := by
  unfold standardName? at named
  split at named
  case h_7 =>
    obtain ⟨kind, isKind, rfl⟩ := Option.map_eq_some_iff.mp named
    exact .signedInteger (isIntegerKind_of_integerKind? isKind)
  case h_8 =>
    obtain ⟨kind, isKind, rfl⟩ := Option.map_eq_some_iff.mp named
    exact .unsignedInteger (isIntegerKind_of_integerKind? isKind)
  case h_9 => cases named
  all_goals
    cases named
    constructor

/-- The names that are recognized are the standard ones, each with the scalar that it spells, and
the scalar tells the name: no two names that are recognized stand for one scalar, and the name is
read off the parts of the scalar. -/
theorem standard_names_recognized :
    (∀ name scalar, ofAlias? name = some scalar ↔ scalar.IsSpelled name) ∧
    Set.InjOn ofAlias? {name | (ofAlias? name).isSome} ∧
    ∀ name scalar, ofAlias? name = some scalar ↔ scalar.standardName? = some name := by
  have spells (name : String) (scalar : Scalar) :
      ofAlias? name = some scalar ↔ scalar.IsSpelled name :=
    ⟨isSpelled_of_ofAlias?, fun spelled => spelled.recognized_and_recovered.1⟩
  have recovers (name : String) (scalar : Scalar) :
      ofAlias? name = some scalar ↔ scalar.standardName? = some name :=
    (spells name scalar).trans
      ⟨fun spelled => spelled.recognized_and_recovered.2, isSpelled_of_standardName?⟩
  refine ⟨spells, ?injective, recovers⟩
  intro name accepted other _ same
  obtain ⟨scalar, recognized⟩ := Option.isSome_iff_exists.mp accepted
  have named := (recovers name scalar).mp recognized
  have alsoNamed := (recovers other scalar).mp (same ▸ recognized)
  exact Option.some.inj (named.symm.trans alsoNamed)

example : ["int_t", "int128_t", "uint_least_t", "int_fast_t", "uuint8_t", "int_least_fast8_t"].map
    Scalar.ofAlias? = List.replicate 6 none := by
  decide

end Scalar

end ForeignBindings
