import ForeignBindings.OrderedMap

/-!
# Maps keyed by names

Names are ordered by code point.
-/

namespace ForeignBindings

/-- A finite map from names, listed in the order of the names. -/
abbrev NameMap (α : Type) := OrderedMap String α

namespace NameMap

/-- The distinct names of a list in ascending order. -/
def distinctNames (names : List String) : List String := (OrderedSet.ofElements names).keys

end NameMap

end ForeignBindings
