import ForeignBindings.CType
import ForeignBindings.Enumerator
import ForeignBindings.NameMap

/-!
# Contents of a module

What the lowering of one source file yields: functions and variables under
their names, struct and enum definitions under their tags. The first declaration
of a name is the one that counts.
-/

namespace ForeignBindings

/-- The definition of a struct or an enum. -/
inductive Tag where
  /-- A struct with its fields in the order of declaration. -/
  | structure (fields : List (Entity CType))
  /-- An enum with its integer type and its enumerators in the order of declaration. -/
  | enumeration (underlying : CType) (values : List Enumerator)
deriving DecidableEq, Repr, Inhabited

namespace Tag

/-- The types that a definition refers to: those of the fields, or the integer type. -/
def types : Tag → List CType
  | .structure fields => fields.map Entity.type
  | .enumeration underlying _ => [underlying]

end Tag

/-- Everything lowered from one source file. -/
structure Contents where
  entities : NameMap CType := .empty
  tags : NameMap Tag := .empty
  imports : List String := []
deriving DecidableEq, Repr, Inhabited

namespace Contents

/-- Adds a function or variable unless its name is taken. -/
def addEntity (contents : Contents) (name : String) (type : CType) : Contents :=
  { contents with entities := contents.entities.insertNew name type }

/-- Adds a definition unless its tag is taken. -/
def addTag (contents : Contents) (name : String) (tag : Tag) : Contents :=
  { contents with tags := contents.tags.insertNew name tag }

/-- Whether the module has neither an entity nor a tag. -/
def isEmpty (contents : Contents) : Bool :=
  contents.entities.isEmpty && contents.tags.isEmpty

/-- Every type that the module refers to, of entities first, then of tags. -/
def types (contents : Contents) : List CType :=
  contents.entities.values ++ contents.tags.values.flatMap Tag.types

end Contents

end ForeignBindings
