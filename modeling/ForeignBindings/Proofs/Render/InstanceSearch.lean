import ForeignBindings.Proofs.Layout.Search
import ForeignBindings.Render.Module

/-!
# Searches of a module

A module with instances takes a search for each of its structs. What a search finds that ends
is what the instance is rendered from: `Render.structInstance_eq_of_searchInstance`. All searches
end where no enums go round in a circle. A struct whose first field is an enum on such a
circle has a search that does not end, and so has its module.
-/

namespace ForeignBindings

open Relation

/-- What a search finds is its outcome, if it ends. -/
theorem LayoutSearch.answer?_of_outcome? {α : Type} {search : LayoutSearch (Option α)}
    {answer : Option α} (ends : search.outcome? = some answer) : search.answer? = answer := by
  rw [answer?, ends, Option.join_some]

namespace Render

section Found

variable {model : DataModel} {tags : NameMap Tag} {fields : List (Entity CType)}

/-- The search for the first field without a layout, if it ends, finds the one to blame. -/
theorem eq_unsizedField?_of_searchUnsized {found : Option (Entity CType)}
    (ends : searchUnsized model tags fields = some found) :
    found = unsizedField? model tags fields := by
  induction fields with
  | nil =>
    cases ends
    rfl
  | cons field rest inductionHypothesis =>
    obtain ⟨answer, first, others⟩ := Option.bind_eq_some_iff.mp ends
    have same : model.layout? tags field.type = answer := LayoutSearch.answer?_of_outcome? first
    unfold unsizedField? at inductionHypothesis ⊢
    rw [List.find?_cons, same]
    cases answer with
    | none =>
      cases others
      rfl
    | some layout => exact inductionHypothesis others

/-- Renders the instance of a struct from what its searches found. -/
def instanceFrom (name typeName constructor : String) :
    Except (Option (Entity CType)) Placement → Render Unit
  | .ok placement =>
    instanceBlock typeName placement.layout (structMembers constructor placement.offsets)
  | .error field => report (layoutUnknown name field)

/-- The searches for the instance of a struct, if they end, find what it is rendered from. -/
theorem structInstance_eq_of_searchInstance {name : String} (typeName constructor : String)
    {found : Except (Option (Entity CType)) Placement}
    (ends : searchInstance model tags name fields = some found) :
    structInstance model tags name typeName constructor fields =
      instanceFrom name typeName constructor found := by
  obtain ⟨answer, first, others⟩ := Option.bind_eq_some_iff.mp ends
  have same : model.placement? tags name = answer := LayoutSearch.answer?_of_outcome? first
  unfold structInstance
  rw [same]
  cases answer with
  | none =>
    obtain ⟨field, blamed, isFound⟩ := Option.bind_eq_some_iff.mp others
    cases isFound
    rw [eq_unsizedField?_of_searchUnsized blamed]
    rfl
  | some placement =>
    cases others
    rfl

end Found

section Ends

variable {tags : NameMap Tag} (model : DataModel)

/-- The search for the first field without a layout ends where no enums go round in a circle. -/
theorem exists_searchUnsized (acyclic : NoEnumerationCycle tags) (fields : List (Entity CType)) :
    ∃ found, searchUnsized model tags fields = some found := by
  induction fields with
  | nil => exact ⟨none, rfl⟩
  | cons field rest inductionHypothesis =>
    obtain ⟨answer, answers, -⟩ := model.typeSettles_of_acyclic acyclic [] field.type
    unfold searchUnsized
    rw [answers.outcome?_eq]
    cases answer with
    | none => exact ⟨some field, rfl⟩
    | some layout => exact inductionHypothesis

/-- The searches for the instance of a struct end where no enums go round in a circle, and the
instance is rendered from what they find. -/
theorem exists_searchInstance (acyclic : NoEnumerationCycle tags) (name : String)
    (fields : List (Entity CType)) :
    ∃ found, searchInstance model tags name fields = some found ∧
      ∀ typeName constructor, structInstance model tags name typeName constructor fields =
        instanceFrom name typeName constructor found := by
  have ends : ∃ found, searchInstance model tags name fields = some found := by
    obtain ⟨answer, answers, -⟩ := model.structSettles_of_acyclic acyclic [] name
    obtain ⟨field, blamed⟩ := exists_searchUnsized model acyclic fields
    unfold searchInstance
    rw [answers.outcome?_eq]
    cases answer with
    | none => exact ⟨.error field, by simp [blamed]⟩
    | some placement => exact ⟨.ok placement, rfl⟩
  obtain ⟨found, isFound⟩ := ends
  exact ⟨found, isFound, fun typeName constructor =>
    structInstance_eq_of_searchInstance typeName constructor isFound⟩

/-- The search for the instance of a struct does not end if its first field is an enum on a circle
of enums. -/
theorem searchInstance_eq_none {name : String} {field : Entity CType}
    {rest : List (Entity CType)} (defined : tags.find? name = some (.structure (field :: rest)))
    (circle : TransGen (ContainsAsInteger tags) field.type field.type) :
    searchInstance model tags name (field :: rest) = none := by
  have endless : model.rules.structLayout tags name [] = none :=
    LayoutRules.structLayout_eq_none defined List.not_mem_nil
      (LayoutRules.fieldLayouts_eq_none (LayoutRules.typeLayout_eq_none_of_circle circle _))
  have outcome : (model.structLayout tags name).outcome? = none := by
    simp [LayoutSearch.outcome?, DataModel.structLayout, StateT.run'_eq, StateT.run, endless]
  unfold searchInstance
  rw [outcome]
  rfl

end Ends

end Render

/-- Actions that may come to nothing are all done exactly if each of them is. -/
theorem forM_eq_some_iff {α : Type} {action : α → Option Unit} {items : List α} :
    items.forM action = some () ↔ ∀ item ∈ items, action item = some () := by
  induction items with
  | nil => exact iff_of_true rfl (List.forall_mem_nil _)
  | cons item rest inductionHypothesis =>
    rw [List.forM, List.forall_mem_cons, ← inductionHypothesis]
    cases action item <;> simp

/-- The searches of a module end exactly if no instances are wanted or those for each of its structs
end. -/
theorem Contents.searchLayouts_eq_some_iff {contents : Contents} {options : RenderOptions} :
    contents.searchLayouts options = some () ↔ (options.storableInstances = true →
      ∀ name fields, contents.tags.find? name = some (.structure fields) →
        ∃ found, Render.searchInstance options.model contents.tags name fields = some found) := by
  unfold searchLayouts
  by_cases wanted : options.storableInstances = true
  case neg => simp [wanted]
  case pos =>
    rw [if_pos wanted, forM_eq_some_iff]
    constructor
    · intro all _ name fields defined
      have ends := all (name, .structure fields) (OrderedMap.mem_entries_iff.mpr defined)
      obtain ⟨found, isFound, -⟩ := Option.bind_eq_some_iff.mp ends
      exact ⟨found, isFound⟩
    · rintro each ⟨name, definition⟩ member
      cases definition with
      | enumeration underlying values => rfl
      | «structure» fields =>
        obtain ⟨found, isFound⟩ :=
          each wanted name fields (OrderedMap.mem_entries_iff.mp member)
        simp [isFound]

end ForeignBindings
