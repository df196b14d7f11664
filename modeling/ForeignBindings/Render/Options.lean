import ForeignBindings.Layout.DataModel

/-!
# Options of rendering

The choices that shape the text of a generated module.
-/

namespace ForeignBindings

/-- The choices that shape the text of a generated module. -/
structure RenderOptions where
  /-- The first part of every module name. -/
  libraryName : String := "Library"
  /-- A pointer to void is rendered as a pointer to a fresh type variable. -/
  voidPointerAsAny : Bool := true
  /-- Type variables of record fields may be quantified in place. -/
  allowRankNTypes : Bool := true
  /-- Structs and enums get instances that read and write them in memory. -/
  storableInstances : Bool := false
  /-- The data model that the instances are laid out for. -/
  model : DataModel := .lp64
deriving DecidableEq, Repr, Inhabited

namespace RenderOptions

/-- Whether a pointer to void in a record field gets a type variable. The variable has to be
quantified in the field, and an instance could not read a field with a quantified type. -/
def quantifiesFields (options : RenderOptions) : Bool :=
  options.voidPointerAsAny && options.allowRankNTypes && !options.storableInstances

end RenderOptions

end ForeignBindings
