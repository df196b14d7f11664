import ForeignBindings.Proofs.Layout.Search

/-!
# Exact layouts

Requests for layouts that are made one after the other do not affect each other, and what
is found is what the rules derive. Nothing is found exactly for a type that leads to
something of no size or to a type that contains itself.
-/

namespace ForeignBindings

open Relation

namespace DataModel

variable {model : DataModel} {tags : NameMap Tag}

/-- A request for a layout, or for the placement of a struct. -/
inductive LayoutRequest where
  | type (type : CType)
  | placement (name : String)

/-- Searches for what is requested, one request after the other, and forgets the answers. -/
def answerAll (model : DataModel) (tags : NameMap Tag) : List LayoutRequest → LayoutSearch Unit
  | [] => pure ()
  | .type type :: rest => do
    let _ ← model.typeLayout tags type
    model.answerAll tags rest
  | .placement name :: rest => do
    let _ ← model.structLayout tags name
    model.answerAll tags rest

/-- Requests that are answered leave no trace. -/
theorem answers_answerAll (acyclic : NoEnumerationCycle tags) (inProgress : List String)
    (requests : List LayoutRequest) : (model.answerAll tags requests).Answers inProgress () := by
  induction requests with
  | nil => exact LayoutSearch.answers_pure () inProgress
  | cons request rest inductionHypothesis =>
    cases request with
    | type type =>
      obtain ⟨_, answers, -⟩ := typeSettles_of_acyclic model acyclic inProgress type
      exact answers.bind inductionHypothesis
    | placement name =>
      obtain ⟨_, answers, -⟩ := structSettles_of_acyclic model acyclic inProgress name
      exact answers.bind inductionHypothesis

/-- A struct has a placement exactly when its tag has a layout. -/
theorem exists_hasPlacement_iff {name : String} {fields : List (Entity CType)}
    (defined : tags.find? name = some (.structure fields)) :
    (∃ placement, HasPlacement model tags name placement) ↔
      ∃ layout, HasLayout model tags (.named name) layout := by
  constructor
  · rintro ⟨placement, has⟩
    exact ⟨placement.layout, has.hasLayout⟩
  · rintro ⟨layout, has⟩
    cases has with
    | enumeration alsoDefined has => cases defined.symm.trans alsoDefined
    | «structure» alsoDefined all => exact ⟨_, .natural alsoDefined all⟩

/-- No struct is met again where none is in progress. -/
theorem avoids_nil (type : CType) : Avoids tags [] type := nofun

/-- The layout of a type is the one that the rules derive. -/
theorem layout?_eq_some_iff (acyclic : NoEnumerationCycle tags) {type : CType}
    {layout : Layout} :
    model.layout? tags type = some layout ↔ HasLayout model tags type layout := by
  obtain ⟨answer, answers, agrees⟩ := typeSettles_of_acyclic model acyclic [] type
  rw [layout?, answers.answer?_eq]
  exact ⟨agrees.sound layout, agrees.complete layout (avoids_nil type)⟩

/-- The placement of a struct is the one that the rules derive. -/
theorem placement?_eq_some_iff (acyclic : NoEnumerationCycle tags) {name : String}
    {placement : Placement} :
    model.placement? tags name = some placement ↔ HasPlacement model tags name placement := by
  obtain ⟨answer, answers, agrees⟩ := structSettles_of_acyclic model acyclic [] name
  rw [placement?, answers.answer?_eq]
  exact ⟨agrees.sound placement, agrees.complete placement (avoids_nil (.named name))⟩

/-- A type has no layout exactly when it leads to something of no size. -/
theorem layout?_eq_none_iff (acyclic : NoEnumerationCycle tags) {type : CType} :
    model.layout? tags type = none ↔ LeadsToSizeless tags type := by
  rw [← not_iff_not, ← exists_hasLayout_iff model, Option.eq_none_iff_forall_ne_some]
  simp only [ne_eq, layout?_eq_some_iff acyclic, not_forall, not_not]

/-- A struct has no placement exactly when it leads to something of no size. -/
theorem placement?_eq_none_iff (acyclic : NoEnumerationCycle tags) {name : String}
    {fields : List (Entity CType)} (defined : tags.find? name = some (.structure fields)) :
    model.placement? tags name = none ↔ LeadsToSizeless tags (.named name) := by
  rw [← not_iff_not, ← exists_hasLayout_iff model, ← exists_hasPlacement_iff defined,
    Option.eq_none_iff_forall_ne_some]
  simp only [ne_eq, placement?_eq_some_iff acyclic, not_forall, not_not]

/-- The search is exact where no enums go round in a circle. Whatever was requested before and
whichever structs are in progress, it ends, leaves them as they are, and answers as if nothing
had been requested before. With no struct in progress, it finds what the rules derive, and
finds nothing exactly for what leads to something of no size or to a type that contains
itself. -/
theorem search_exact (model : DataModel) (tags : NameMap Tag)
    (acyclic : NoEnumerationCycle tags) :
    (∀ requests inProgress type, ∃ answer,
      (model.typeLayout tags type).run inProgress = some (answer, inProgress) ∧
      (model.answerAll tags requests >>= fun _ => model.typeLayout tags type).run inProgress =
        some (answer, inProgress)) ∧
    (∀ requests inProgress name, ∃ answer,
      (model.structLayout tags name).run inProgress = some (answer, inProgress) ∧
      (model.answerAll tags requests >>= fun _ => model.structLayout tags name).run inProgress =
        some (answer, inProgress)) ∧
    (∀ requests type,
      (model.answerAll tags requests >>= fun _ => model.typeLayout tags type).run [] =
        some (model.layout? tags type, [])) ∧
    (∀ requests name,
      (model.answerAll tags requests >>= fun _ => model.structLayout tags name).run [] =
        some (model.placement? tags name, [])) ∧
    (∀ type layout,
      model.layout? tags type = some layout ↔ HasLayout model tags type layout) ∧
    (∀ name placement,
      model.placement? tags name = some placement ↔ HasPlacement model tags name placement) ∧
    (∀ type, model.layout? tags type = none ↔ LeadsToSizeless tags type) ∧
    (∀ name fields, tags.find? name = some (.structure fields) →
      (model.placement? tags name = none ↔ LeadsToSizeless tags (.named name))) := by
  have before : ∀ requests inProgress,
      (model.answerAll tags requests).Answers inProgress () :=
    fun requests inProgress => answers_answerAll acyclic inProgress requests
  refine ⟨?types, ?structs, ?freshTypes, ?freshStructs, fun _ _ => layout?_eq_some_iff acyclic,
    fun _ _ => placement?_eq_some_iff acyclic, fun _ => layout?_eq_none_iff acyclic,
    fun _ _ defined => placement?_eq_none_iff acyclic defined⟩
  case types =>
    intro requests inProgress type
    obtain ⟨answer, answers, -⟩ := typeSettles_of_acyclic model acyclic inProgress type
    exact ⟨answer, answers, (before requests inProgress).bind answers⟩
  case structs =>
    intro requests inProgress name
    obtain ⟨answer, answers, -⟩ := structSettles_of_acyclic model acyclic inProgress name
    exact ⟨answer, answers, (before requests inProgress).bind answers⟩
  case freshTypes =>
    intro requests type
    obtain ⟨answer, answers, -⟩ := typeSettles_of_acyclic model acyclic [] type
    rw [layout?, answers.answer?_eq]
    exact (before requests []).bind answers
  case freshStructs =>
    intro requests name
    obtain ⟨answer, answers, -⟩ := structSettles_of_acyclic model acyclic [] name
    rw [placement?, answers.answer?_eq]
    exact (before requests []).bind answers

/-- A list node: an enum beside a pointer to the next node. -/
def nodeTags : NameMap Tag :=
  .ofList [("colour", .enumeration (.scalar ⟨.unsigned, .int, .unsized⟩) []),
    ("node", .structure [⟨"colour", .named "colour"⟩, ⟨"next", .pointer (.named "node")⟩])]

theorem find?_colour_nodeTags :
    nodeTags.find? "colour" = some (.enumeration (.scalar ⟨.unsigned, .int, .unsized⟩) []) := by
  decide

theorem find?_node_nodeTags : nodeTags.find? "node" =
    some (.structure [⟨"colour", .named "colour"⟩, ⟨"next", .pointer (.named "node")⟩]) := by
  decide

/-- The enum of a list node has a scalar as its integer type. -/
theorem noEnumerationCycle_nodeTags : NoEnumerationCycle nodeTags :=
  noEnumerationCycle_of_entries (by decide)

/-- A list node takes two words. -/
theorem layout_node : NoEnumerationCycle nodeTags ∧
    DataModel.lp64.layout? nodeTags (.named "node") = some ⟨16, 8⟩ := by
  refine ⟨noEnumerationCycle_nodeTags, ?_⟩
  obtain ⟨-, -, -, -, exact, -⟩ := search_exact .lp64 nodeTags noEnumerationCycle_nodeTags
  rw [exact]
  have colour : HasLayout .lp64 nodeTags (.named "colour") ⟨4, 4⟩ :=
    .enumeration find?_colour_nodeTags (.scalar rfl)
  have fields : HaveLayouts .lp64 nodeTags
      [⟨"colour", .named "colour"⟩, ⟨"next", .pointer (.named "node")⟩] [⟨4, 4⟩, ⟨8, 8⟩] :=
    .cons colour (.cons (.pointer _) .nil)
  exact .structure find?_node_nodeTags fields

end DataModel

end ForeignBindings
