import ForeignBindings.Name.Word

/-!
# Case conversion

A `NameCase` says how the words of an identifier are spelled and joined, a
`NameVariant` what kind of host identifier comes out, and so which letter it has
to start with.
-/

namespace ForeignBindings

/-- The two cases of a letter. -/
inductive LetterCase where
  | upper
  | lower
deriving DecidableEq, Repr

/-- Writes an ASCII letter in the given case; other characters stay. -/
def LetterCase.apply : LetterCase → Char → Char
  | upper, letter => letter.toUpper
  | lower, letter => letter.toLower

/-- How the words of an identifier are spelled and joined. -/
inductive NameCase where
  /-- The identifier stays as it is. -/
  | preserving
  /-- As in `FooBarBaz`. -/
  | camel
  /-- As in `foo_bar_baz`. -/
  | snakeAllLower
  /-- As in `Foo_Bar_Baz`. -/
  | snakeInitialUpper
  /-- As in `FOO_BAR_BAZ`. -/
  | snakeAllUpper
deriving DecidableEq, Repr, Inhabited

/-- The kind of host identifier that a name becomes. -/
inductive NameVariant where
  | preserving
  | variable
  | moduleName
  | typeConstructor
  | dataConstructor
deriving DecidableEq, Repr, Inhabited

namespace NameVariant

/-- Every variant. -/
def all : List NameVariant :=
  [.preserving, .variable, .moduleName, .typeConstructor, .dataConstructor]

/-- The word that names a variant. -/
def word : NameVariant → String
  | preserving => "preserving"
  | .variable => "variable"
  | moduleName => "module_name"
  | typeConstructor => "type_ctor"
  | dataConstructor => "data_ctor"

/-- The case that the first letter of an identifier must have. -/
def initial? : NameVariant → Option LetterCase
  | preserving => none
  | .variable => some .lower
  | moduleName | typeConstructor | dataConstructor => some .upper

/-- Whether an identifier may start with the character. -/
def acceptsFirst (variant : NameVariant) (first : Char) : Bool :=
  match variant.initial? with
  | none => true
  | some .upper => first.isUpper
  | some .lower => first.isLower || first == '_'

/-- Whether a text starts as the variant requires; the empty text never does. -/
def acceptsInitial (variant : NameVariant) (name : String) : Bool :=
  match name.toList with
  | [] => false
  | first :: _ => variant.acceptsFirst first

/-- Gives the first letter the case that the variant requires. -/
def forceInitial (variant : NameVariant) : List Char → List Char
  | [] => []
  | first :: rest =>
    match variant.initial? with
    | none => first :: rest
    | some letterCase => letterCase.apply first :: rest

end NameVariant

namespace NameCase

/-- Every case. -/
def all : List NameCase := [preserving, camel, snakeAllLower, snakeInitialUpper, snakeAllUpper]

/-- The word that names a case. -/
def word : NameCase → String
  | preserving => "preserving"
  | camel => "camel"
  | snakeAllLower => "snake_all_lower"
  | snakeInitialUpper => "snake_init_upper"
  | snakeAllUpper => "snake_all_upper"

/-- What stands between two words. -/
def separator : NameCase → List Char
  | preserving | camel => []
  | snakeAllLower | snakeInitialUpper | snakeAllUpper => ['_']

/-- A word with an upper-case letter first and lower-case letters after it. -/
def capitalize : List Char → List Char
  | [] => []
  | first :: rest => first.toUpper :: rest.map Char.toLower

/-- Spells one word. -/
def spell (nameCase : NameCase) (word : List Char) : List Char :=
  match nameCase with
  | preserving => word
  | camel | snakeInitialUpper => capitalize word
  | snakeAllLower => word.map Char.toLower
  | snakeAllUpper => word.map Char.toUpper

/-- Spells and joins words. -/
def join (nameCase : NameCase) (words : List (List Char)) : List Char :=
  nameCase.separator.intercalate (words.map nameCase.spell)

/-- Converts an identifier. There is no result when it has no words; the preserving case
takes the identifier as it is and asks only that it is not empty. -/
def convert? (nameCase : NameCase) (variant : NameVariant) (name : String) : Option String :=
  match nameCase with
  | preserving => if name = "" then none else some name
  | _ =>
    match Word.segment name.toList with
    | [] => none
    | words => some (String.ofList (variant.forceInitial (nameCase.join words)))

end NameCase

end ForeignBindings
