import ForeignBindings.Layout.ByValue
import ForeignBindings.Render.TypeText

/-!
# Instances that read and write memory

The instances of structs and enums, at the offsets of the natural layout. A
struct without a layout gets a warning in place of its instance.
-/

namespace ForeignBindings.Render

/-- Renders an instance: its head and, further in, its members. -/
def instanceBlock (typeName : String) (layout : Layout) (members : Render Unit) :
    Render Unit := do
  line ("instance Storable " ++ typeName ++ " where")
  indented do
    line ("sizeOf _ = " ++ toString layout.size)
    line ("alignment _ = " ++ toString layout.align)
    members
  blank

/-- The first field of a struct that has no layout. -/
def unsizedField? (model : DataModel) (tags : NameMap Tag) (fields : List (Entity CType)) :
    Option (Entity CType) :=
  fields.find? fun field => (model.layout? tags field.type).isNone

/-- Searches for the first field of a struct that has no layout. -/
def searchUnsized (model : DataModel) (tags : NameMap Tag) :
    List (Entity CType) → Option (Option (Entity CType))
  | [] => some none
  | field :: rest => do
    match ← (model.typeLayout tags field.type).outcome? with
    | none => return some field
    | some _ => searchUnsized model tags rest

/-- Searches for what an instance is made of: the placement of the fields of a struct or, if
there is none, the first field that has no layout. Unless the searches end, nothing comes of
them. -/
def searchInstance (model : DataModel) (tags : NameMap Tag) (name : String)
    (fields : List (Entity CType)) : Option (Except (Option (Entity CType)) Placement) := do
  match ← (model.structLayout tags name).outcome? with
  | some placement => return .ok placement
  | none => return .error (← searchUnsized model tags fields)

/-- The warning that a struct gets no instance, and which field is to blame. -/
def layoutUnknown (name : String) (field : Option (Entity CType)) : Diagnostic :=
  let warning := Diagnostic.warning .layoutUnknown
    ("cannot compute the layout of struct `" ++ name ++ "`; no Storable instance is generated")
  match field with
  | none => warning
  | some field =>
    warning.withNote
      ("field `" ++ field.name ++ "` has type `" ++ field.type.display ++
        "`, whose size is unknown")

/-- The operator that applies a constructor to its first argument, and then to the others. -/
def applicationOperator (index : Nat) : String := if index = 0 then "<$>" else "<*>"

/-- The members of the instance of a struct: reading, then writing, field by field. -/
def structMembers (constructor : String) (offsets : List Nat) : Render Unit := do
  if offsets.isEmpty then
    line ("peek _ = pure " ++ constructor)
    line "poke _ _ = pure ()"
  else
    let indexed := offsets.zipIdx
    line ("peek p = " ++ constructor)
    indented (lines (indexed.map fun (offset, index) =>
      applicationOperator index ++ " peekByteOff p " ++ toString offset))
    let binders := indexed.map fun (_, index) => "f" ++ toString index
    line ("poke p (" ++ constructor ++ " " ++ " ".intercalate binders ++ ") = do")
    indented (lines (indexed.map fun (offset, index) =>
      "pokeByteOff p " ++ toString offset ++ " f" ++ toString index))

/-- Renders the instance of a struct, or reports that it has no layout. -/
def structInstance (model : DataModel) (tags : NameMap Tag) (name typeName constructor : String)
    (fields : List (Entity CType)) : Render Unit :=
  match model.placement? tags name with
  | none => report (layoutUnknown name (unsizedField? model tags fields))
  | some placement =>
    instanceBlock typeName placement.layout (structMembers constructor placement.offsets)

/-- The layout of an enum in its instance; without a sized integer type it has four bytes. -/
def enumLayout (model : DataModel) (underlying : CType) : Layout :=
  (underlying.asScalar?.bind model.scalar?).getD (.ofSize 4)

/-- Renders the instance of an enum, which is stored as its integer. -/
def enumInstance (model : DataModel) (typeName constructor : String) (underlying : CType) :
    Render Unit :=
  instanceBlock typeName (enumLayout model underlying) do
    line ("peek p = " ++ constructor ++ " <$> peek (castPtr p)")
    line ("poke p (" ++ constructor ++ " v) = poke (castPtr p) v")

end ForeignBindings.Render
