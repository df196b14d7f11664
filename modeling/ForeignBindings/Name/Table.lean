import ForeignBindings.Name.Clash
import ForeignBindings.Name.Keywords

/-!
# Tables of resolved names

A table remembers which host identifier each source name got, so that a name
keeps the identifier that it first got. It also keeps, for each identifier, the
source names that became it; in a scoped namespace those of different scopes are
kept apart. Clashes are read off these groups.
-/

namespace ForeignBindings

/-- An identifier with the scope in which it has to be unique. -/
def Namespace.key (space : Namespace) (source : ScopedName) (output : String) : ScopedName :=
  match space with
  | .flat => .unscoped output
  | .perScope => ⟨source.scope, output⟩

/-- The source names of one kind with the host identifiers that they got. -/
structure NameTable where
  space : Namespace
  /-- The identifier of each source name. -/
  outputs : OrderedMap ScopedName String := .empty
  /-- The source names of each identifier. -/
  origins : OrderedMap ScopedName (OrderedSet ScopedName) := .empty

namespace NameTable

/-- A table without entries. -/
def empty (space : Namespace) : NameTable := { space }

instance : Inhabited NameTable := ⟨empty .flat⟩

/-- The identifier that a source name got. -/
def find? (table : NameTable) (source : ScopedName) : Option String := table.outputs.find? source

/-- The source names that became an identifier. -/
def originsOf (table : NameTable) (key : ScopedName) : OrderedSet ScopedName :=
  (table.origins.find? key).getD .empty

/-- Remembers the identifier of a source name. -/
def record (table : NameTable) (source : ScopedName) (output : String) : NameTable :=
  let key := table.space.key source output
  { table with
    outputs := table.outputs.insert source output
    origins := table.origins.insert key ((table.originsOf key).add source) }

/-- Resolves a source name: the identifier that it has, or else the one that `convert`
yields, which is remembered. A failed conversion leaves the table as it was. -/
def resolve {ε : Type} (table : NameTable) (source : ScopedName) (convert : Except ε String) :
    Except ε String × NameTable :=
  match table.find? source with
  | some output => (.ok output, table)
  | none =>
    match convert with
    | .ok output => (.ok output, table.record source output)
    | .error error => (.error error, table)

/-- The clashes of one identifier: shared by several names, or reserved. -/
def clashesOf (kind : NameKind) (module : Option String) (keywords : Keywords)
    (group : ScopedName × OrderedSet ScopedName) : List Clash :=
  let report (reason : ClashReason) : Clash :=
    { kind, module, output := group.1.name, sources := group.2.keys, reason }
  (if 1 < group.2.size then [report .duplicate] else []) ++
    (if keywords.contains group.1.name then [report .keyword] else [])

/-- All clashes of a table, in the order of the identifiers. -/
def clashes (table : NameTable) (kind : NameKind) (module : Option String)
    (keywords : Keywords) : List Clash :=
  table.origins.entries.flatMap (clashesOf kind module keywords)

end NameTable

end ForeignBindings
