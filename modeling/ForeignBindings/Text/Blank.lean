/-!
# White space

The characters with the Unicode property `White_Space`, and the removal of such
characters from both ends of a text.
-/

namespace ForeignBindings.Text

/-- The code points of white space beyond those of the ASCII range. -/
def wideBlanks : List Nat :=
  [0x85, 0xA0, 0x1680, 0x2000, 0x2001, 0x2002, 0x2003, 0x2004, 0x2005, 0x2006, 0x2007, 0x2008,
    0x2009, 0x200A, 0x2028, 0x2029, 0x202F, 0x205F, 0x3000]

/-- Whether a character has the Unicode property `White_Space`. -/
def isBlank (character : Char) : Bool :=
  character == ' ' || (0x9 ≤ character.toNat && character.toNat ≤ 0xD) ||
    wideBlanks.contains character.toNat

/-- The text without the white space at its ends. -/
def trim (text : String) : String :=
  let unled := text.toList.dropWhile isBlank
  String.ofList (unled.reverse.dropWhile isBlank).reverse

/-- Whether the text holds nothing but white space. -/
def isBlankText (text : String) : Bool := text.toList.all isBlank

end ForeignBindings.Text
