import ForeignBindings.Proofs.Name.Calls
import Mathlib.Data.Finset.Sort

/-!
# Clash reports

The report of a table says nothing about the order of its calls: it is determined by
the set of names that were resolved, with what they became. `clashReport` is the
report of such a set. `NameTable.Holds` ties both maps of a table to the set, every
call keeps the tie, and `NameTable.Holds.clashes` reads the report off it.
-/

namespace ForeignBindings

instance : LinearOrder ScopedName where
  le_refl name := Std.le_refl name
  le_trans _ _ _ := ScopedName.le_trans
  le_antisymm _ _ := ScopedName.le_antisymm
  le_total := ScopedName.le_total
  lt_iff_le_not_ge left right := Std.LawfulOrderLT.lt_iff left right
  toDecidableLE := inferInstance
  toDecidableLT := inferInstance
  toDecidableEq := inferInstance

/-- The source names that a sequence of calls resolved, with the identifiers they got. -/
def resolvedNames {ε : Type} (answers : List (ScopedName × Except ε String)) :
    Finset (ScopedName × String) :=
  (answers.filterMap fun answered =>
    answered.2.toOption.map fun output => (answered.1, output)).toFinset

/-- A name is resolved when a call for it succeeds. -/
theorem mem_resolvedNames {ε : Type} {answers : List (ScopedName × Except ε String)}
    {source : ScopedName} {output : String} :
    (source, output) ∈ resolvedNames answers ↔ (source, .ok output) ∈ answers := by
  unfold resolvedNames
  rw [List.mem_toFinset, List.mem_filterMap]
  constructor
  · rintro ⟨⟨name, answer⟩, member, same⟩
    cases answer with
    | error error => simp [Except.toOption] at same
    | ok found =>
      simp only [Except.toOption, Option.map_some, Option.some.injEq, Prod.mk.injEq] at same
      rw [← same.1, ← same.2]
      exact member
  · intro member
    exact ⟨_, member, rfl⟩

/-- The names that became one identifier. -/
def clashGroup (space : Namespace) (resolved : Finset (ScopedName × String))
    (key : ScopedName) : Finset ScopedName :=
  (resolved.filter fun entry => space.key entry.1 entry.2 = key).image Prod.fst

/-- The clashes of a set of resolved names. The names are grouped by the identifier, in a
scoped namespace together with the scope. In the order of the groups, a group of at least
two names is reported as a duplicate and a group whose identifier is reserved as a keyword,
each with all its names in ascending order. -/
def clashReport (kind : NameKind) (module : Option String) (space : Namespace)
    (keywords : Keywords) (resolved : Finset (ScopedName × String)) : List Clash :=
  let keys := resolved.image fun entry => space.key entry.1 entry.2
  (keys.sort (· ≤ ·)).flatMap fun key =>
    let group := clashGroup space resolved key
    let clash (reason : ClashReason) : Clash :=
      { kind, module, output := key.name, sources := group.sort (· ≤ ·), reason }
    (if 2 ≤ group.card then [clash .duplicate] else []) ++
      (if keywords.contains key.name then [clash .keyword] else [])

theorem mem_clashGroup {space : Namespace} {resolved : Finset (ScopedName × String)}
    {key source : ScopedName} :
    source ∈ clashGroup space resolved key ↔
      ∃ output, (source, output) ∈ resolved ∧ space.key source output = key := by
  simp [clashGroup]

/-- Nothing is reported exactly when different names became different identifiers, in a scoped
namespace within their scope, and none became a reserved word. -/
theorem clashReport_eq_nil_iff {kind : NameKind} {module : Option String} {space : Namespace}
    {keywords : Keywords} {resolved : Finset (ScopedName × String)} :
    clashReport kind module space keywords resolved = [] ↔
      (∀ first ∈ resolved, ∀ second ∈ resolved,
        space.key first.1 first.2 = space.key second.1 second.2 → first.1 = second.1) ∧
      ∀ entry ∈ resolved, keywords.contains (space.key entry.1 entry.2).name = false := by
  have single : ∀ key, ¬ 2 ≤ (clashGroup space resolved key).card ↔
      ∀ first ∈ clashGroup space resolved key, ∀ second ∈ clashGroup space resolved key,
        first = second := by
    intro key
    rw [← Finset.card_le_one]
    omega
  unfold clashReport
  simp only [List.flatMap_eq_nil_iff, Finset.mem_sort, Finset.mem_image, List.append_eq_nil_iff,
    ite_eq_right_iff, imp_false, single, Bool.not_eq_true, List.cons_ne_nil]
  constructor
  · intro quiet
    constructor
    · rintro first isFirst second isSecond sameKey
      have group := (quiet _ ⟨second, isSecond, rfl⟩).1
      exact group first.1 (mem_clashGroup.mpr ⟨first.2, isFirst, sameKey⟩) second.1
        (mem_clashGroup.mpr ⟨second.2, isSecond, rfl⟩)
    · intro entry member
      exact (quiet _ ⟨entry, member, rfl⟩).2
  · rintro ⟨distinct, free⟩ key ⟨entry, member, rfl⟩
    refine ⟨fun first isFirst second isSecond => ?_, free entry member⟩
    obtain ⟨output, isResolved, sameKey⟩ := mem_clashGroup.mp isFirst
    obtain ⟨other, otherResolved, otherKey⟩ := mem_clashGroup.mp isSecond
    exact distinct _ isResolved _ otherResolved (sameKey.trans otherKey.symm)

/-- The keys of an ordered map, as a set, are listed in ascending order. -/
theorem OrderedMap.keys_eq_sort {α : Type} {map : OrderedMap ScopedName α}
    {elements : Finset ScopedName} (same : ∀ key, key ∈ map.keys ↔ key ∈ elements) :
    map.keys = elements.sort (· ≤ ·) := by
  have ascending : map.keys.SortedLT := by
    have entries := map.ascending
    unfold Ascending at entries
    rw [List.sortedLT_iff_pairwise]
    exact List.pairwise_map.mpr entries
  refine ascending.eq_of_mem_iff (Finset.sortedLT_sort elements) fun key => ?_
  rw [same, Finset.mem_sort]

namespace NameTable

/-- Both maps of a table agree with the set of the names that were resolved: the one has
the identifier of each name, the other the names of each identifier. -/
structure Holds (table : NameTable) (resolved : Finset (ScopedName × String)) : Prop where
  outputs : ∀ source output, table.find? source = some output ↔ (source, output) ∈ resolved
  keys : ∀ key, key ∈ table.origins.keys ↔
    key ∈ resolved.image fun entry => table.space.key entry.1 entry.2
  origins : ∀ key source, source ∈ (table.originsOf key).keys ↔
    source ∈ clashGroup table.space resolved key

theorem holds_empty (space : Namespace) : (empty space).Holds ∅ where
  outputs source output := by simp [find?, empty]
  keys key := by simp [empty, OrderedMap.mem_keys_iff]
  origins key source := by
    rw [mem_clashGroup]
    simp [originsOf, empty, OrderedMap.mem_keys_iff]

/-- Recording a name adds it to the set, whatever identifier it gets. -/
theorem Holds.record {table : NameTable} {resolved : Finset (ScopedName × String)}
    (holds : table.Holds resolved) {source : ScopedName} (output : String)
    (absent : table.find? source = none) :
    (table.record source output).Holds (insert (source, output) resolved) where
  outputs wanted found := by
    rw [find?_record, Finset.mem_insert]
    split
    case isTrue same =>
      subst same
      have unresolved : (wanted, found) ∉ resolved := by
        rw [← holds.outputs, absent]
        simp
      simp [unresolved, eq_comm]
    case isFalse different =>
      rw [holds.outputs]
      simp [different]
  keys key := by
    have inserted : (table.record source output).origins.keys =
        (table.origins.insert (table.space.key source output)
          ((table.originsOf (table.space.key source output)).add source)).keys := rfl
    rw [inserted, OrderedMap.mem_keys_insert, holds.keys, space_record, Finset.image_insert,
      Finset.mem_insert]
  origins key wanted := by
    have group : (table.record source output).originsOf key =
        if key = table.space.key source output then (table.originsOf key).add source
        else table.originsOf key := by
      unfold originsOf NameTable.record
      rw [OrderedMap.find?_insert]
      split
      case isTrue same => simp [same, originsOf]
      case isFalse => rfl
    rw [group, space_record, mem_clashGroup]
    split
    case isTrue same =>
      unfold OrderedSet.add
      rw [OrderedMap.mem_keys_insert, holds.origins, mem_clashGroup]
      constructor
      · rintro (rfl | ⟨found, member, sameKey⟩)
        · exact ⟨output, Finset.mem_insert_self _ _, same.symm⟩
        · exact ⟨found, Finset.mem_insert_of_mem member, sameKey⟩
      · rintro ⟨found, member, sameKey⟩
        rcases Finset.mem_insert.mp member with equal | member
        · exact Or.inl (Prod.mk.inj equal).1
        · exact Or.inr ⟨found, member, sameKey⟩
    case isFalse different =>
      rw [holds.origins, mem_clashGroup]
      constructor
      · rintro ⟨found, member, sameKey⟩
        exact ⟨found, Finset.mem_insert_of_mem member, sameKey⟩
      · rintro ⟨found, member, sameKey⟩
        rcases Finset.mem_insert.mp member with equal | member
        · obtain ⟨rfl, rfl⟩ := Prod.mk.inj equal
          exact absurd sameKey.symm different
        · exact ⟨found, member, sameKey⟩

/-- A call adds the name to the set if it succeeds. -/
theorem Holds.resolve {ε : Type} {table : NameTable} {resolved : Finset (ScopedName × String)}
    (holds : table.Holds resolved) (source : ScopedName) (convert : Except ε String) :
    (table.resolve source convert).2.Holds
      (resolved ∪ resolvedNames [(source, (table.resolve source convert).1)]) := by
  rcases table.resolve_cases source convert with
    ⟨output, found, step⟩ | ⟨output, absent, _, step⟩ | ⟨error, _, _, step⟩
  · have again : resolvedNames [(source, (.ok output : Except ε String))] ⊆ resolved := by
      rintro ⟨name, became⟩ member
      rw [mem_resolvedNames, List.mem_singleton] at member
      injection member with sameName sameOutput
      rw [sameName, Except.ok.inj sameOutput, ← holds.outputs]
      exact found
    rw [step, Finset.union_eq_left.mpr again]
    exact holds
  · have gained : resolvedNames [(source, (.ok output : Except ε String))] =
        {(source, output)} := rfl
    rw [step, gained, Finset.union_comm, ← Finset.insert_eq]
    exact holds.record output absent
  · have nothing : resolvedNames [(source, (.error error : Except ε String))] = ∅ := rfl
    rw [step, nothing, Finset.union_empty]
    exact holds

/-- A sequence of calls adds the names that it resolved to the set. -/
theorem Calls.holds {ε : Type} {table last : NameTable}
    {answers : List (ScopedName × Except ε String)} (calls : table.Calls answers last)
    {resolved : Finset (ScopedName × String)} (holds : table.Holds resolved) :
    last.Holds (resolved ∪ resolvedNames answers) := by
  induction calls generalizing resolved with
  | refl =>
    have nothing : resolvedNames ([] : List (ScopedName × Except ε String)) = ∅ := rfl
    rw [nothing, Finset.union_empty]
    exact holds
  | @call table source convert answers last _ inductionHypothesis =>
    have split : resolvedNames ((source, (table.resolve source convert).1) :: answers) =
        resolvedNames [(source, (table.resolve source convert).1)] ∪ resolvedNames answers := by
      ext ⟨name, output⟩
      simp only [Finset.mem_union, mem_resolvedNames, List.mem_cons, List.not_mem_nil, or_false]
    rw [split, ← Finset.union_assoc]
    exact inductionHypothesis (holds.resolve source convert)

/-- No sequence of calls changes the namespace of a table. -/
theorem Calls.space {ε : Type} {table last : NameTable}
    {answers : List (ScopedName × Except ε String)} (calls : table.Calls answers last) :
    last.space = table.space := by
  induction calls with
  | refl => rfl
  | call _ inductionHypothesis => rw [inductionHypothesis, space_resolve]

/-- A table reports the clashes of the names that were resolved, no more and no fewer. -/
theorem Holds.clashes {table : NameTable} {resolved : Finset (ScopedName × String)}
    (holds : table.Holds resolved) (kind : NameKind) (module : Option String)
    (keywords : Keywords) :
    table.clashes kind module keywords =
      clashReport kind module table.space keywords resolved := by
  unfold NameTable.clashes clashReport
  rw [OrderedMap.entries_eq_map_keys table.origins .empty, List.flatMap_map,
    OrderedMap.keys_eq_sort holds.keys]
  congr 1
  funext key
  have sources : (table.originsOf key).keys = (clashGroup table.space resolved key).sort (· ≤ ·) :=
    OrderedMap.keys_eq_sort (holds.origins key)
  have size : (table.originsOf key).size = (clashGroup table.space resolved key).card := by
    rw [← Finset.length_sort (· ≤ ·), ← sources, OrderedMap.size, OrderedMap.keys, List.length_map]
  unfold originsOf at sources size
  simp only [clashesOf, sources, size]
  rfl

end NameTable

namespace Resolver

/-- The names of one kind that a sequence of calls resolves, with what they become. -/
def resolved (resolver : Resolver) (requests : List Request) (kind : ItemKind) :
    Finset (ScopedName × String) :=
  resolvedNames (answersOf kind (resolver.resolveAll requests).1)

/-- The names that are resolved are those that are asked for and have a value. -/
theorem Recalls.mem_resolved {resolver : Resolver} (recalls : resolver.Recalls)
    {requests : List Request} {kind : ItemKind} {source : ScopedName} {output : String} :
    (source, output) ∈ resolver.resolved requests kind ↔
      ⟨kind, source⟩ ∈ requests ∧ resolver.value kind source.name = .ok output := by
  unfold resolved answersOf
  rw [mem_resolvedNames, recalls.answers]
  simp only [List.mem_map, List.mem_filter, decide_eq_true_eq, Prod.mk.injEq]
  constructor
  · rintro ⟨_, ⟨⟨request, member, rfl⟩, rfl⟩, rfl, value⟩
    exact ⟨member, value⟩
  · rintro ⟨member, value⟩
    exact ⟨_, ⟨⟨_, member, rfl⟩, rfl⟩, rfl, value⟩

/-- What is resolved is determined by its names. -/
theorem Recalls.resolved_eq {resolver : Resolver} (recalls : resolver.Recalls)
    {requests others : List Request} {kind : ItemKind}
    (names : (resolver.resolved requests kind).image Prod.fst =
      (resolver.resolved others kind).image Prod.fst) :
    resolver.resolved requests kind = resolver.resolved others kind := by
  have asked : ∀ {first second : List Request},
      (resolver.resolved first kind).image Prod.fst ⊆
        (resolver.resolved second kind).image Prod.fst →
      resolver.resolved first kind ⊆ resolver.resolved second kind := by
    rintro first second subset ⟨source, output⟩ member
    have value := (recalls.mem_resolved.mp member).2
    obtain ⟨⟨name, became⟩, found, same⟩ :=
      Finset.mem_image.mp (subset (Finset.mem_image_of_mem Prod.fst member))
    simp only at same
    subst same
    exact recalls.mem_resolved.mpr ⟨(recalls.mem_resolved.mp found).1, value⟩
  exact Finset.Subset.antisymm (asked names.subset) (asked names.symm.subset)

/-- After any calls, the table of a kind holds the names of the kind that they resolved. -/
theorem holds_resolveAll (moduleName : String) (converters : ConverterSet)
    (file : Option NameConverter) (overrides : NameOverrides) (namespaces : NamespacePolicy)
    (requests : List Request) (kind : ItemKind) :
    let fresh := new moduleName converters file overrides namespaces
    ((fresh.resolveAll requests).2.tables.get kind).Holds (fresh.resolved requests kind) ∧
      ((fresh.resolveAll requests).2.tables.get kind).space = namespaces.get kind := by
  intro fresh
  have calls := fresh.calls_resolveAll requests kind
  have start : fresh.tables.get kind = .empty (namespaces.get kind) := PerKind.get_ofFunction _ kind
  rw [start] at calls
  have holds := calls.holds (NameTable.holds_empty (namespaces.get kind))
  rw [Finset.empty_union] at holds
  exact ⟨holds, calls.space⟩

/-- The clashes after any calls are the reports of what was resolved, kind by kind. -/
theorem clashes_resolveAll (moduleName : String) (converters : ConverterSet)
    (file : Option NameConverter) (overrides : NameOverrides) (namespaces : NamespacePolicy)
    (requests : List Request) (keywords : Keywords) :
    let fresh := new moduleName converters file overrides namespaces
    (fresh.resolveAll requests).2.clashes keywords =
      [ItemKind.type, .constructor, .variable].flatMap fun kind =>
        clashReport (.item kind) (some moduleName) (namespaces.get kind) keywords
          (fresh.resolved requests kind) := by
  intro fresh
  unfold clashes reportOrder
  congr 1
  funext kind
  obtain ⟨holds, space⟩ :=
    holds_resolveAll moduleName converters file overrides namespaces requests kind
  rw [holds.clashes, space, moduleName_resolveAll]
  rfl

end Resolver

/-- After any calls, the table of module names reports the clashes of what was resolved. -/
theorem ModuleNameTable.clashes_resolveAll (explicit : NameMap String)
    (requests : List ModuleNameTable.Request) (keywords : Keywords) :
    ((ModuleNameTable.new explicit).resolveAll requests).2.clashes keywords =
      clashReport .module none .flat keywords
        (resolvedNames ((ModuleNameTable.new explicit).resolveAll requests).1) := by
  have calls := (ModuleNameTable.new explicit).calls_resolveAll requests
  have start : (ModuleNameTable.new explicit).table = .empty .flat := rfl
  rw [start] at calls
  have holds := calls.holds (NameTable.holds_empty .flat)
  rw [Finset.empty_union] at holds
  have space : ((ModuleNameTable.new explicit).resolveAll requests).2.table.space = .flat :=
    calls.space
  unfold ModuleNameTable.clashes
  rw [holds.clashes, space]

/-- The clashes after any calls, some of which may fail, are exactly the report of the names
that were resolved. They depend on no more than which names these are: neither on the order
of the calls nor on how often a name was asked for. The same report is that of the table of
module names, whose names are the files. -/
theorem clashes_eq_clashReport (moduleName : String) (converters : ConverterSet)
    (file : Option NameConverter) (overrides : NameOverrides) (namespaces : NamespacePolicy)
    (keywords : Keywords) :
    let fresh := Resolver.new moduleName converters file overrides namespaces
    (∀ requests : List Resolver.Request,
      (fresh.resolveAll requests).2.clashes keywords =
        [ItemKind.type, .constructor, .variable].flatMap fun kind =>
          clashReport (.item kind) (some moduleName) (namespaces.get kind) keywords
            (fresh.resolved requests kind)) ∧
    (∀ requests others : List Resolver.Request,
      (∀ kind, (fresh.resolved requests kind).image Prod.fst =
        (fresh.resolved others kind).image Prod.fst) →
      (fresh.resolveAll requests).2.clashes keywords =
        (fresh.resolveAll others).2.clashes keywords) ∧
    ∀ (explicit : NameMap String) (requests : List ModuleNameTable.Request),
      ((ModuleNameTable.new explicit).resolveAll requests).2.clashes keywords =
        clashReport .module none .flat keywords
          (resolvedNames ((ModuleNameTable.new explicit).resolveAll requests).1) := by
  intro fresh
  have report := fun requests => Resolver.clashes_resolveAll moduleName converters file overrides
    namespaces requests keywords
  refine ⟨report, ?_, fun explicit requests =>
    ModuleNameTable.clashes_resolveAll explicit requests keywords⟩
  intro requests others names
  have recalls := Resolver.recalls_new moduleName converters file overrides namespaces
  have sets : fresh.resolved requests = fresh.resolved others :=
    funext fun kind => recalls.resolved_eq (names kind)
  have first := report requests
  have second := report others
  simp only at first second
  rw [first, second, sets]

end ForeignBindings
