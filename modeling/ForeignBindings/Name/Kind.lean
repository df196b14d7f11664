import ForeignBindings.Name.Case
import ForeignBindings.NameMap

/-!
# Kinds of names

The kinds of host identifiers that names are resolved to. Module names are unique
in a whole run. The names of the items of a module, which are types, constructors
and variables, are unique in the module or only in their scope, as a policy says.
-/

namespace ForeignBindings

/-- The kinds of items that a module declares. -/
inductive ItemKind where
  | type
  | constructor
  | variable
deriving DecidableEq, Repr, Inhabited

/-- The kinds of names that are checked for clashes. -/
inductive NameKind where
  | module
  | item (kind : ItemKind)
deriving DecidableEq, Repr, Inhabited

/-- The scope within which names of one kind are unique. -/
inductive Namespace where
  | flat
  | perScope
deriving DecidableEq, Repr, Inhabited

namespace Namespace

/-- Every namespace. -/
def all : List Namespace := [flat, perScope]

/-- The word that names a namespace. -/
def word : Namespace → String
  | flat => "flat"
  | perScope => "scoped"

end Namespace

/-- One value for each kind of item. -/
structure PerKind (α : Type) where
  forTypes : α
  forConstructors : α
  forVariables : α
deriving DecidableEq, Repr, Inhabited

namespace PerKind

variable {α β : Type}

/-- The same value for every kind. -/
def replicate (value : α) : PerKind α := ⟨value, value, value⟩

/-- A value for every kind. -/
def ofFunction (value : ItemKind → α) : PerKind α :=
  ⟨value .type, value .constructor, value .variable⟩

/-- The value for one kind. -/
def get (values : PerKind α) : ItemKind → α
  | .type => values.forTypes
  | .constructor => values.forConstructors
  | .variable => values.forVariables

/-- Replaces the value for one kind. -/
def set (values : PerKind α) (kind : ItemKind) (value : α) : PerKind α :=
  match kind with
  | .type => { values with forTypes := value }
  | .constructor => { values with forConstructors := value }
  | .variable => { values with forVariables := value }

/-- A replaced value is found under its kind, and the other kinds keep theirs. -/
theorem get_set (values : PerKind α) (kind wanted : ItemKind) (value : α) :
    (values.set kind value).get wanted = if wanted = kind then value else values.get wanted := by
  cases kind <;> cases wanted <;> rfl

/-- The value for a kind is what the function says. -/
@[simp] theorem get_ofFunction (value : ItemKind → α) (kind : ItemKind) :
    (ofFunction value).get kind = value kind := by
  cases kind <;> rfl

end PerKind

namespace ItemKind

/-- The words that name a kind in a report. -/
def text : ItemKind → String
  | type => "type ctor"
  | constructor => "data ctor"
  | .variable => "variable"

/-- The variant of the identifiers of a kind. -/
def variant : ItemKind → NameVariant
  | type => .typeConstructor
  | constructor => .dataConstructor
  | .variable => .variable

end ItemKind

namespace NameKind

/-- The words that name a kind in a report. -/
def text : NameKind → String
  | .module => "module"
  | item kind => kind.text

/-- The variant of the identifiers of a kind. -/
def variant : NameKind → NameVariant
  | .module => .moduleName
  | item kind => kind.variant

end NameKind

/-- The namespace of each kind of item. -/
abbrev NamespacePolicy := PerKind Namespace

/-- The policy that every name is unique in its module. -/
def NamespacePolicy.flat : NamespacePolicy := .replicate .flat

/-- The namespace of a kind of name; module names always share one. -/
def NamespacePolicy.ofKind (policy : NamespacePolicy) : NameKind → Namespace
  | .module => .flat
  | .item kind => policy.get kind

/-- Host names that are given outright, by the raw name of the source. -/
abbrev NameOverrides := PerKind (NameMap String)

namespace NameOverrides

/-- No overrides. -/
def none : NameOverrides := .replicate .empty

/-- The host name that is given for a raw name; module names have no overrides here. -/
def find? (overrides : NameOverrides) (kind : NameKind) (raw : String) : Option String :=
  match kind with
  | .module => Option.none
  | .item kind => (overrides.get kind).find? raw

/-- The raw names that are given an empty host name: variables, types, constructors. -/
def emptyOutputs (overrides : NameOverrides) : List String :=
  let entries :=
    overrides.forVariables.entries ++ overrides.forTypes.entries ++
      overrides.forConstructors.entries
  (entries.filter fun entry => entry.2 == "").map Prod.fst

end NameOverrides

end ForeignBindings
