import ForeignBindings.Proofs.Diagnostic.Queue
import ForeignBindings.Proofs.Lowering.Report

/-!
# Lowering one declaration after the other

A unit is lowered declaration by declaration, and none has a part in what another
contributes. Appended lists of declarations yield the contents of both, where the first
list has precedence, and the reports of both. A name gets what the first declaration
gives that binds it; one that is filtered out or rejected does not stand in the way.
-/

namespace ForeignBindings

/-- A value that the first of some items gives which gives one at all. -/
def FirstOf {α β : Type} (items : List α) (gives : α → β → Prop) (value : β) : Prop :=
  ∃ earlier item later, items = earlier ++ item :: later ∧ gives item value ∧
    ∀ other ∈ earlier, ∀ unwanted, ¬ gives other unwanted

/-- A search through a list finds the value that the first item gives. -/
theorem findSome?_eq_some_iff_firstOf {α β : Type} {items : List α} {find : α → Option β}
    {gives : α → β → Prop} (finds : ∀ item value, find item = some value ↔ gives item value)
    {value : β} : items.findSome? find = some value ↔ FirstOf items gives value := by
  rw [List.findSome?_eq_some_iff]
  constructor
  · rintro ⟨earlier, item, later, split, found, before⟩
    refine ⟨earlier, item, later, split, (finds item value).mp found, ?_⟩
    intro other member unwanted gives
    rw [← finds, before other member] at gives
    cases gives
  · rintro ⟨earlier, item, later, split, gives, before⟩
    refine ⟨earlier, item, later, split, (finds item value).mpr gives, ?_⟩
    intro other member
    rw [Option.eq_none_iff_forall_ne_some]
    intro unwanted found
    exact before other member unwanted ((finds other unwanted).mp found)

/-- A search through a list finds nothing if no item gives a value. -/
theorem findSome?_eq_none_iff_gives_nothing {α β : Type} {items : List α} {find : α → Option β}
    {gives : α → β → Prop} (finds : ∀ item value, find item = some value ↔ gives item value) :
    items.findSome? find = none ↔ ∀ item ∈ items, ∀ value, ¬ gives item value := by
  rw [List.findSome?_eq_none_iff]
  simp only [Option.eq_none_iff_forall_ne_some, ne_eq, finds]

namespace Contribution

/-- A contribution gives an entity its type unless it has one. -/
theorem find?_entities_addTo (contribution : Contribution) (contents : Contents) (name : String) :
    (contribution.addTo contents).entities.find? name =
      (contents.entities.find? name).or (contribution.entity? name) := by
  cases contribution with
  | nothing => simp [addTo, entity?]
  | tag other definition => simp [addTo, entity?, Contents.addTag]
  | report diagnostics => simp [addTo, entity?]
  | entity other type =>
    simp only [addTo, entity?, Contents.addEntity, OrderedMap.find?_insertNew]
    by_cases same : name = other
    · subst same
      cases contents.entities.find? name <;> simp
    · simp [same]

/-- A contribution gives a tag its definition unless it has one. -/
theorem find?_tags_addTo (contribution : Contribution) (contents : Contents) (name : String) :
    (contribution.addTo contents).tags.find? name =
      (contents.tags.find? name).or (contribution.tag? name) := by
  cases contribution with
  | nothing => simp [addTo, tag?]
  | entity other type => simp [addTo, tag?, Contents.addEntity]
  | report diagnostics => simp [addTo, tag?]
  | tag other definition =>
    simp only [addTo, tag?, Contents.addTag, OrderedMap.find?_insertNew]
    by_cases same : name = other
    · subst same
      cases contents.tags.find? name <;> simp
    · simp [same]

/-- What is looked up where contributions are added in order is the first that one of them
gives, unless there is something from the start. -/
theorem lookup_foldl {α : Type} (lookup : Contents → Option α) {gives : Contribution → Option α}
    (addTo : ∀ (contribution : Contribution) contents,
      lookup (contribution.addTo contents) = (lookup contents).or (gives contribution))
    (contributions : List Contribution) (start : Contents) :
    lookup (contributions.foldl (fun contents contribution => contribution.addTo contents) start) =
      (lookup start).or (contributions.findSome? gives) := by
  induction contributions generalizing start with
  | nil => simp
  | cons contribution rest inductionHypothesis =>
    rw [List.foldl_cons, inductionHypothesis, addTo, List.findSome?_cons, Option.or_assoc]
    cases gives contribution <;> simp

end Contribution

namespace SourceUnit

variable (policy : LoweringPolicy)

/-- The type of an entity is the first that a declaration has for it. -/
theorem find?_entities_lower (unit : SourceUnit) (queue : Queue) (name : String) :
    (unit.lower policy queue).1.entities.find? name =
      unit.declarations.findSome? fun declaration =>
        (declaration.contribution policy).entity? name := by
  have found := Contribution.lookup_foldl (fun contents => contents.entities.find? name)
    fun contribution contents => contribution.find?_entities_addTo contents name
  unfold lower contributions
  rw [found, List.findSome?_map]
  rfl

/-- The definition of a tag is the first that a declaration has for it. -/
theorem find?_tags_lower (unit : SourceUnit) (queue : Queue) (name : String) :
    (unit.lower policy queue).1.tags.find? name =
      unit.declarations.findSome? fun declaration =>
        (declaration.contribution policy).tag? name := by
  have found := Contribution.lookup_foldl (fun contents => contents.tags.find? name)
    fun contribution contents => contribution.find?_tags_addTo contents name
  unfold lower contributions
  rw [found, List.findSome?_map]
  rfl

/-- An open queue receives the reports of the declarations in order. -/
theorem toList_lower (unit : SourceUnit) {queue : Queue} (isOpen : queue.IsOpen) :
    (unit.lower policy queue).2.toList =
      queue.toList ++ unit.declarations.flatMap fun declaration =>
        (declaration.contribution policy).diagnostics := by
  unfold lower contributions
  rw [isOpen.toList_extend, List.flatMap_map]

/-- A new queue holds the reports of the declarations in order. -/
theorem toList_lower_new (unit : SourceUnit) :
    (unit.lower policy (.ofPolicy {})).2.toList = unit.declarations.flatMap fun declaration =>
      (declaration.contribution policy).diagnostics :=
  toList_lower policy unit Queue.isOpen_new

/-- What one declaration reports to a new queue. -/
theorem toList_lower_singleton (file : String) (declaration : Declaration) :
    (lower policy ⟨file, [declaration]⟩ (.ofPolicy {})).2.toList =
      (declaration.contribution policy).diagnostics := by
  rw [toList_lower_new]
  exact List.flatMap_singleton _ _

/-- A name has the type that the first declaration binds it to which passes the gates. -/
theorem find?_entities_lower_iff (unit : SourceUnit) (queue : Queue) (name : String)
    (type : CType) :
    (unit.lower policy queue).1.entities.find? name = some type ↔
      FirstOf unit.declarations (fun declaration type =>
        declaration.Passes policy ∧ declaration.BindsEntity policy name type) type := by
  rw [find?_entities_lower]
  exact findSome?_eq_some_iff_firstOf fun _ _ => Declaration.entity?_contribution_iff

/-- A tag has the definition that the first declaration binds it to which passes the gates. -/
theorem find?_tags_lower_iff (unit : SourceUnit) (queue : Queue) (name : String)
    (definition : Tag) :
    (unit.lower policy queue).1.tags.find? name = some definition ↔
      FirstOf unit.declarations (fun declaration definition =>
        declaration.Passes policy ∧ declaration.BindsTag policy name definition) definition := by
  rw [find?_tags_lower]
  exact findSome?_eq_some_iff_firstOf fun _ _ => Declaration.tag?_contribution_iff

/-- The names of appended lists have what the first list gives them, or else the second. -/
theorem find?_lower_append (file : String) (first second : List Declaration)
    (queue firstQueue secondQueue : Queue) (name : String) :
    (lower policy ⟨file, first ++ second⟩ queue).1.entities.find? name =
        ((lower policy ⟨file, first⟩ firstQueue).1.entities.find? name).or
          ((lower policy ⟨file, second⟩ secondQueue).1.entities.find? name) ∧
      (lower policy ⟨file, first ++ second⟩ queue).1.tags.find? name =
        ((lower policy ⟨file, first⟩ firstQueue).1.tags.find? name).or
          ((lower policy ⟨file, second⟩ secondQueue).1.tags.find? name) := by
  simp only [find?_entities_lower, find?_tags_lower, List.findSome?_append, and_self]

/-- Appended lists report what the first does, then what the second does. -/
theorem toList_lower_append (file : String) (first second : List Declaration) :
    (lower policy ⟨file, first ++ second⟩ (.ofPolicy {})).2.toList =
      (lower policy ⟨file, first⟩ (.ofPolicy {})).2.toList ++
        (lower policy ⟨file, second⟩ (.ofPolicy {})).2.toList := by
  simp only [toList_lower_new, List.flatMap_append]

/-- A declaration whose contribution adds nothing can be left out. -/
theorem lower_without (file : String) (earlier later : List Declaration) (queue : Queue)
    {declaration : Declaration}
    (addsNothing : ∀ contents, (declaration.contribution policy).addTo contents = contents) :
    (lower policy ⟨file, earlier ++ declaration :: later⟩ queue).1 =
      (lower policy ⟨file, earlier ++ later⟩ queue).1 := by
  simp only [lower, contributions, List.map_append, List.map_cons, List.foldl_append,
    List.foldl_cons, addsNothing]

/-- Lowering is compositional. Appended lists of declarations yield the entities and tags of
both, those of the first list before those of the second, and the reports of both. So a name
gets what the first declaration binds it to among those that pass the gates. A declaration
that is held back or reports, or that binds nothing, leaves the contents as they are, and
what one declaration reports is one block at most. -/
theorem lower_compositional :
    (∀ file first second,
      let both := lower policy ⟨file, first ++ second⟩ (.ofPolicy {})
      let left := lower policy ⟨file, first⟩ (.ofPolicy {})
      let right := lower policy ⟨file, second⟩ (.ofPolicy {})
      (∀ name, both.1.entities.find? name =
        (left.1.entities.find? name).or (right.1.entities.find? name)) ∧
      (∀ name, both.1.tags.find? name =
        (left.1.tags.find? name).or (right.1.tags.find? name)) ∧
      both.2.toList = left.2.toList ++ right.2.toList) ∧
    (∀ unit queue name type, (lower policy unit queue).1.entities.find? name = some type ↔
      FirstOf unit.declarations (fun declaration type =>
        declaration.Passes policy ∧ declaration.BindsEntity policy name type) type) ∧
    (∀ unit queue name definition, (lower policy unit queue).1.tags.find? name = some definition ↔
      FirstOf unit.declarations (fun declaration definition =>
        declaration.Passes policy ∧ declaration.BindsTag policy name definition) definition) ∧
    (∀ file earlier declaration later queue,
      (¬ declaration.Passes policy ∨
        (lower policy ⟨file, [declaration]⟩ (.ofPolicy {})).2.toList ≠ [] ∨
        (∀ name type, ¬ declaration.BindsEntity policy name type) ∧
          (∀ name definition, ¬ declaration.BindsTag policy name definition)) →
      (lower policy ⟨file, earlier ++ declaration :: later⟩ queue).1 =
        (lower policy ⟨file, earlier ++ later⟩ queue).1) ∧
    (∀ file (declaration : Declaration), declaration.ReportBlock policy
      (lower policy ⟨file, [declaration]⟩ (.ofPolicy {})).2.toList) := by
  refine ⟨?appended, find?_entities_lower_iff policy, find?_tags_lower_iff policy, ?isolated,
    ?reports⟩
  case appended =>
    intro file first second
    refine ⟨fun name => ?_, fun name => ?_, toList_lower_append policy file first second⟩
    · exact (find?_lower_append policy file first second _ _ _ name).1
    · exact (find?_lower_append policy file first second _ _ _ name).2
  case isolated =>
    intro file earlier declaration later queue addsNothing
    refine lower_without policy file earlier later queue fun contents => ?_
    rcases addsNothing with fails | reports | ⟨noEntity, noTag⟩
    · exact Declaration.addTo_contribution_of_not_passes fails contents
    · rw [toList_lower_singleton] at reports
      exact Contribution.addTo_of_diagnostics_ne_nil contents reports
    · refine Contribution.addTo_of_binds_nothing contents (fun name => ?_) fun name => ?_
      · rw [Option.eq_none_iff_forall_ne_some]
        intro type found
        exact noEntity name type (Declaration.entity?_contribution_iff.mp found).2
      · rw [Option.eq_none_iff_forall_ne_some]
        intro definition found
        exact noTag name definition (Declaration.tag?_contribution_iff.mp found).2
  case reports =>
    intro file declaration
    rw [toList_lower_singleton]
    exact declaration.reportBlock_contribution policy

/-- Only the integer type of an enum is not looked at: an enum is bound although its integer
type has no name. -/
theorem enumeration_bound_with_anonymous_type :
    ¬ ∀ policy unit queue name definition,
      (lower policy unit queue).1.tags.find? name = some definition ↔
        FirstOf unit.declarations (fun declaration definition => declaration.Passes policy ∧
          declaration.BindsTag policy name definition ∧
          ∀ type ∈ definition.types, type.mentionsAnonymous = false) definition := by
  intro always
  have bound := (always {} { declarations := [{ name := "e", kind := .enumeration (.tag "") [] }] }
    (.ofPolicy {}) "e" (.enumeration (.named "") [])).mp (by decide)
  obtain ⟨earlier, declaration, later, -, ⟨-, -, named⟩, -⟩ := bound
  exact absurd (named (.named "") (by decide)) (by decide)

end SourceUnit

end ForeignBindings
