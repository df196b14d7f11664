/-!
# Reserved words

The identifiers that a host language reserves, which no generated name may be.
-/

namespace ForeignBindings

/-- A set of reserved words. -/
structure Keywords where
  words : List String := []
deriving DecidableEq, Repr, Inhabited

namespace Keywords

/-- The set of the listed words. -/
def ofList (words : List String) : Keywords := ⟨words.eraseDups⟩

/-- Whether a word is reserved. -/
def contains (keywords : Keywords) (word : String) : Bool := keywords.words.contains word

/-- The number of reserved words. -/
def size (keywords : Keywords) : Nat := keywords.words.length

/-- Whether no word is reserved. -/
def isEmpty (keywords : Keywords) : Bool := keywords.words.isEmpty

/-- The reserved words of Haskell 2010, with `forall`, which types reserve once they may be
quantified, and `pattern`, which declarations reserve once patterns may be named. -/
def haskellWords : List String :=
  ["_", "case", "class", "data", "default", "deriving", "do", "else", "forall", "foreign", "if",
    "import", "in", "infix", "infixl", "infixr", "instance", "let", "module", "newtype", "of",
    "pattern", "then", "type", "where"]

/-- The reserved words of Haskell. -/
def haskell : Keywords := ofList haskellWords

end Keywords

end ForeignBindings
