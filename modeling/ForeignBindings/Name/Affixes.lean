/-!
# Affixes

Literal texts that a converter strips from the ends of a name and adds to them.
-/

namespace ForeignBindings

/-- Texts to strip from a name and to add to it. -/
structure Affixes where
  removePrefix : String := ""
  removeSuffix : String := ""
  addPrefix : String := ""
  addSuffix : String := ""
deriving DecidableEq, Repr, Inhabited

namespace Affixes

/-- Whether nothing is stripped and nothing is added. -/
def isIdentity (affixes : Affixes) : Bool :=
  affixes.removePrefix == "" && affixes.removeSuffix == "" && affixes.addPrefix == "" &&
    affixes.addSuffix == ""

/-- The text without the given beginning, if it begins so. -/
def stripStart (start text : List Char) : List Char := (start.isPrefixOf? text).getD text

/-- The text without the given end, if it ends so. -/
def stripEnd (ending text : List Char) : List Char :=
  (stripStart ending.reverse text.reverse).reverse

/-- Strips the beginning, then the end, as far as they match, and adds the new ones. -/
def apply (affixes : Affixes) (name : String) : String :=
  let stripped :=
    stripEnd affixes.removeSuffix.toList (stripStart affixes.removePrefix.toList name.toList)
  affixes.addPrefix ++ String.ofList stripped ++ affixes.addSuffix

end Affixes

end ForeignBindings
