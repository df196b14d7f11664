import ForeignBindings.Proofs.Lowering.Composition
import ForeignBindings.Proofs.Lowering.Parts
import ForeignBindings.Proofs.Render.References

/-!
# Well-formed modules

Whatever a unit declares, the module that it is lowered to can be rendered: `Contents.WellFormed`
says which types its entities have, that every type in it can be written but for the integer types
of enums, and that its structs and enums are those of the declarations, complete and in order. The
queue that receives the reports has no influence: `SourceUnit.lower_wellFormed`.
-/

namespace ForeignBindings

namespace CType

/-- A scalar or a pointer. -/
inductive IsValue : CType → Prop
  | scalar (leaf) : IsValue (.scalar leaf)
  | pointer (pointee) : IsValue (.pointer pointee)

/-- The type of a variable, or that of a function whose parameters are scalars and pointers. -/
inductive FitsEntity : CType → Prop
  | variable {type} (isValue : type.IsValue) : FitsEntity type
  | function {result parameters} (areValues : ∀ parameter ∈ parameters, parameter.type.IsValue) :
      FitsEntity (.function result parameters)

/-- The values of scalars and pointers cross the language boundary. -/
theorem isMarshallable_iff {type : CType} : type.isMarshallable = true ↔ type.IsValue := by
  cases type with
  | scalar leaf => exact iff_of_true rfl (.scalar leaf)
  | pointer pointee => exact iff_of_true rfl (.pointer pointee)
  | named name => exact iff_of_false nofun nofun
  | function result parameters => exact iff_of_false nofun nofun

/-- The test for a type without a name looks at all depths. -/
theorem mentionsAnonymous_eq_false_iff {type : CType} :
    type.mentionsAnonymous = false ↔ ¬ type.Mentions "" := by
  rw [← type.mem_mentionedNames_iff, mentionsAnonymous, ← Bool.not_eq_true, List.contains_iff_mem]

end CType

namespace SourceType

/-- What is lowered for its values is a scalar or a pointer. -/
theorem isValue_of_lowerValue {policy : LoweringPolicy} {location : Location} {type : SourceType}
    {lowered : CType} (lowers : type.lowerValue policy location = .ok lowered) :
    lowered.IsValue := by
  unfold lowerValue at lowers
  obtain ⟨found, -, checked⟩ := except_bind_eq_ok_iff.mp lowers
  split at checked
  case isTrue marshallable =>
    cases checked
    exact CType.isMarshallable_iff.mp marshallable
  case isFalse => cases checked

end SourceType

namespace Contents

/-- Everything in the contents of a module can be used, and stands in the unit. The definition of
a tag is that of a declaration that passes the gates: a struct has all fields of the declaration, an
enum all enumerators, in order, under their names and with their types or values. -/
structure WellFormed (policy : LoweringPolicy) (unit : SourceUnit) (contents : Contents) :
    Prop where
  entityFits : ∀ {name type}, contents.entities.find? name = some type → type.FitsEntity
  entityNamed : ∀ {name type}, contents.entities.find? name = some type → ¬ type.Mentions ""
  fieldNamed : ∀ {tag fields}, contents.tags.find? tag = some (.structure fields) →
    ∀ field ∈ fields, ¬ field.type.Mentions ""
  tagNamed : ∀ {tag definition}, contents.tags.find? tag = some definition → tag ≠ ""
  noImports : contents.imports = []
  structureComplete : ∀ {tag fields}, contents.tags.find? tag = some (.structure fields) →
    ∃ declaration ∈ unit.declarations, declaration.Passes policy ∧ ∃ name members,
      declaration.DeclaresTag (.structure name members) ∧
      Declaration.definedTag name declaration.name = tag ∧
      List.Forall₂ (fun member field => field.name = member.name ∧
        member.type.lower policy (member.location.orElse declaration.location) =
          .ok field.type) members fields
  enumerationComplete : ∀ {tag underlying values},
    contents.tags.find? tag = some (.enumeration underlying values) →
    ∃ declaration ∈ unit.declarations, declaration.Passes policy ∧ ∃ name integerType,
      declaration.DeclaresTag (.enumeration name integerType values) ∧
      Declaration.definedTag name declaration.name = tag ∧
      integerType.lower policy declaration.location = .ok underlying

end Contents

/-- What the first of some items gives, one of them gives. -/
theorem FirstOf.exists_mem {α β : Type} {items : List α} {gives : α → β → Prop} {value : β}
    (isFirst : FirstOf items gives value) : ∃ item ∈ items, gives item value := by
  obtain ⟨earlier, item, later, rfl, holds, -⟩ := isFirst
  exact ⟨item, by simp, holds⟩

namespace Declaration

variable {policy : LoweringPolicy} {declaration : Declaration} {name : String}

/-- An entity is bound to a type that fits. -/
theorem BindsEntity.fitsEntity {type : CType} (binds : declaration.BindsEntity policy name type) :
    type.FitsEntity := by
  cases binds with
  | «variable» kind lowers named => exact .variable (SourceType.isValue_of_lowerValue lowers)
  | function kind lowersResult lowersParameters named =>
    refine .function fun parameter member => ?_
    obtain ⟨declared, -, -, lowers⟩ := exists_of_forall₂_of_mem lowersParameters.flip member
    exact SourceType.isValue_of_lowerValue lowers

/-- An entity is bound to a type that can be written. -/
theorem BindsEntity.named {type : CType} (binds : declaration.BindsEntity policy name type) :
    ¬ type.Mentions "" := by
  cases binds with
  | «variable» kind lowers named => exact CType.mentionsAnonymous_eq_false_iff.mp named
  | function kind lowersResult lowersParameters named =>
    exact CType.mentionsAnonymous_eq_false_iff.mp named

/-- A tag that is bound is not empty. -/
theorem BindsTag.tag_ne_empty {definition : Tag}
    (binds : declaration.BindsTag policy name definition) : name ≠ "" := by
  cases binds with
  | enumeration declares named lowers => exact named
  | «structure» declares named lowers => exact named

end Declaration

namespace SourceUnit

variable (policy : LoweringPolicy) (unit : SourceUnit) (queue : Queue)

/-- Lowering imports nothing. -/
theorem imports_lower : (unit.lower policy queue).1.imports = [] := by
  have keeps : ∀ (contributions : List Contribution) (start : Contents),
      (contributions.foldl (fun contents contribution => contribution.addTo contents)
        start).imports = start.imports := by
    intro contributions
    induction contributions with
    | nil => exact fun _ => rfl
    | cons contribution rest inductionHypothesis =>
      intro start
      rw [List.foldl_cons, inductionHypothesis]
      cases contribution <;> rfl
  exact keeps _ _

/-- A name that a declaration behind the gates binds is that of an entity. -/
theorem mem_keys_entities_lower {declaration : Declaration}
    (member : declaration ∈ unit.declarations) (passes : declaration.Passes policy)
    {name : String} {type : CType} (binds : declaration.BindsEntity policy name type) :
    name ∈ (unit.lower policy queue).1.entities.keys := by
  rw [OrderedMap.mem_keys_iff, ← Option.isSome_iff_exists, find?_entities_lower,
    List.findSome?_isSome_iff]
  exact ⟨declaration, member, Option.isSome_iff_exists.mpr
    ⟨type, Declaration.entity?_contribution_iff.mpr ⟨passes, binds⟩⟩⟩

/-- A name that a declaration behind the gates binds is that of a tag. -/
theorem mem_keys_tags_lower {declaration : Declaration}
    (member : declaration ∈ unit.declarations) (passes : declaration.Passes policy)
    {name : String} {definition : Tag} (binds : declaration.BindsTag policy name definition) :
    name ∈ (unit.lower policy queue).1.tags.keys := by
  rw [OrderedMap.mem_keys_iff, ← Option.isSome_iff_exists, find?_tags_lower,
    List.findSome?_isSome_iff]
  exact ⟨declaration, member, Option.isSome_iff_exists.mpr
    ⟨definition, Declaration.tag?_contribution_iff.mpr ⟨passes, binds⟩⟩⟩

/-- The module of any unit is well-formed, under any policy and with any queue, and has every name
that a declaration behind the gates binds. -/
theorem lower_wellFormed :
    (unit.lower policy queue).1.WellFormed policy unit ∧
    ∀ declaration ∈ unit.declarations, declaration.Passes policy →
      (∀ name type, declaration.BindsEntity policy name type →
        name ∈ (unit.lower policy queue).1.entities.keys) ∧
      ∀ name definition, declaration.BindsTag policy name definition →
        name ∈ (unit.lower policy queue).1.tags.keys := by
  have entity : ∀ {name type}, (unit.lower policy queue).1.entities.find? name = some type →
      ∃ declaration ∈ unit.declarations, declaration.Passes policy ∧
        declaration.BindsEntity policy name type :=
    fun bound => ((find?_entities_lower_iff policy unit queue _ _).mp bound).exists_mem
  have tag : ∀ {name definition}, (unit.lower policy queue).1.tags.find? name = some definition →
      ∃ declaration ∈ unit.declarations, declaration.Passes policy ∧
        declaration.BindsTag policy name definition :=
    fun bound => ((find?_tags_lower_iff policy unit queue _ _).mp bound).exists_mem
  refine ⟨?wellFormed, fun declaration member passes =>
    ⟨fun name type binds => mem_keys_entities_lower policy unit queue member passes binds,
      fun name definition binds => mem_keys_tags_lower policy unit queue member passes binds⟩⟩
  case wellFormed =>
    constructor
    case entityFits =>
      intro name type bound
      obtain ⟨declaration, -, -, binds⟩ := entity bound
      exact binds.fitsEntity
    case entityNamed =>
      intro name type bound
      obtain ⟨declaration, -, -, binds⟩ := entity bound
      exact binds.named
    case fieldNamed =>
      intro name fields bound field member
      obtain ⟨declaration, -, -, binds⟩ := tag bound
      cases binds with
      | «structure» declares named lowers =>
        obtain ⟨declared, -, -, -, fieldNamed⟩ := exists_of_forall₂_of_mem lowers.flip member
        exact CType.mentionsAnonymous_eq_false_iff.mp fieldNamed
    case tagNamed =>
      intro name definition bound
      obtain ⟨declaration, -, -, binds⟩ := tag bound
      exact binds.tag_ne_empty
    case noImports => exact imports_lower policy unit queue
    case structureComplete =>
      intro name fields bound
      obtain ⟨declaration, member, passes, binds⟩ := tag bound
      cases binds with
      | «structure» declares named lowers =>
        exact ⟨declaration, member, passes, _, _, declares, rfl,
          lowers.imp fun _ _ ⟨sameName, lowersType, _⟩ => ⟨sameName, lowersType⟩⟩
    case enumerationComplete =>
      intro name underlying values bound
      obtain ⟨declaration, member, passes, binds⟩ := tag bound
      cases binds with
      | enumeration declares named lowers =>
        exact ⟨declaration, member, passes, _, _, declares, rfl, lowers⟩

end SourceUnit

end ForeignBindings
