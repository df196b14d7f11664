import ForeignBindings.Contents
import ForeignBindings.Layout.DataModel

/-!
# Layouts of types

The layout of a type among the definitions of a module. Scalars and pointers have
one of their own, an enum has that of its integer type, and a struct is laid out
from the layouts of its fields. Void, functions and tags that the module does not
define have none.

A struct that contains itself by value has no layout either. The search keeps the
names of the structs that it is in the middle of, and meets none of them again. It
keeps no such record of enums: where enums go round in a circle through their
integer types, it does not end.
-/

namespace ForeignBindings

/-- What a search for layouts goes by, for layouts of types and placements of fields of
the given kinds. -/
structure LayoutRules (α β : Type) where
  /-- The layout of a scalar, if it has a size. -/
  scalar? : Scalar → Option α
  /-- The layout of a pointer. -/
  pointer : α
  /-- Places fields of the given layouts in order. -/
  place : List α → β
  /-- The layout of a struct whose fields are placed. -/
  layout : β → α

namespace LayoutRules

variable {α β : Type}

mutual

/-- Searches for the layout of a type with the given structs in progress. If the search ends,
the structs that are in progress then come with what it finds. -/
def typeLayout (rules : LayoutRules α β) (tags : NameMap Tag) (type : CType)
    (inProgress : List String) : Option (Option α × List String) :=
  match type with
  | .scalar scalar => some (rules.scalar? scalar, inProgress)
  | .pointer _ => some (some rules.pointer, inProgress)
  | .function _ _ => some (none, inProgress)
  | .named name =>
    match tags.find? name with
    | none => some (none, inProgress)
    | some (.enumeration underlying _) => rules |>.typeLayout tags underlying inProgress
    | some (.structure _) => do
      let (placement, inProgress) ← rules |>.structLayout tags name inProgress
      return (placement.map rules.layout, inProgress)
partial_fixpoint

/-- Searches for the placement of the fields of a struct. The struct is in progress until
its last field is laid out, or the first one that has no layout. -/
def structLayout (rules : LayoutRules α β) (tags : NameMap Tag) (name : String)
    (inProgress : List String) : Option (Option β × List String) :=
  match tags.find? name with
  | some (.structure fields) =>
    if inProgress.contains name then some (none, inProgress)
    else do
      let (layouts, inProgress) ← rules |>.fieldLayouts tags fields (name :: inProgress)
      return (layouts.map rules.place, inProgress.erase name)
  | _ => some (none, inProgress)
partial_fixpoint

/-- Searches for the layouts of fields in order, up to the first one that has none. -/
def fieldLayouts (rules : LayoutRules α β) (tags : NameMap Tag) (fields : List (Entity CType))
    (inProgress : List String) : Option (Option (List α) × List String) :=
  match fields with
  | [] => some (some [], inProgress)
  | field :: rest => do
    match ← (rules |>.typeLayout tags field.type inProgress) with
    | (none, inProgress) => return (none, inProgress)
    | (some layout, inProgress) => do
      let (layouts, inProgress) ← rules |>.fieldLayouts tags rest inProgress
      return (layouts.map fun layouts => layout :: layouts, inProgress)
partial_fixpoint

end

end LayoutRules

/-- A search among the definitions of a module. Its state are the names of the structs
that are being laid out; a search that does not end has no outcome. -/
abbrev LayoutSearch := StateT (List String) Option

namespace LayoutSearch

/-- The outcome of a search that starts with no struct in progress, unless it does not end. -/
def outcome? {α : Type} (search : LayoutSearch α) : Option α := search.run' []

/-- What a search finds that starts with no struct in progress. One that does not end finds
nothing; `outcome?` tells the two apart. -/
def answer? {α : Type} (search : LayoutSearch (Option α)) : Option α := search.outcome?.join

end LayoutSearch

namespace DataModel

/-- The rules of a data model, with numbers of any size. -/
def rules (model : DataModel) : LayoutRules Layout Placement where
  scalar? := model.scalar?
  pointer := model.pointer
  place := Placement.natural
  layout := Placement.layout

/-- Searches for the layout of a type. -/
def typeLayout (model : DataModel) (tags : NameMap Tag) (type : CType) :
    LayoutSearch (Option Layout) :=
  model.rules.typeLayout tags type

/-- Searches for the placement of the fields of a struct. -/
def structLayout (model : DataModel) (tags : NameMap Tag) (name : String) :
    LayoutSearch (Option Placement) :=
  model.rules.structLayout tags name

/-- The layout of a type. -/
def layout? (model : DataModel) (tags : NameMap Tag) (type : CType) : Option Layout :=
  (model.typeLayout tags type).answer?

/-- The placement of the fields of a struct that the module defines. -/
def placement? (model : DataModel) (tags : NameMap Tag) (name : String) : Option Placement :=
  (model.structLayout tags name).answer?

end DataModel

end ForeignBindings
