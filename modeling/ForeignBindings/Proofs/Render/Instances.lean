import ForeignBindings.Proofs.Layout.Exactness
import ForeignBindings.Proofs.Render.References

/-!
# Instances

Where instances are wanted, an enum always gets one, and a struct gets one exactly when it has
a layout. Then the tags that it contains by value get instances, too. A struct without an
instance is reported once, with the first of its fields that has no layout:
`instances_closed_and_explained`.
-/

namespace ForeignBindings

namespace Tag

variable {reference : Resolver} {options : RenderOptions} {tags : NameMap Tag} {name : String}
  {taken : Nat}

end Tag

namespace Render

section Culprits

variable {model : DataModel} {tags : NameMap Tag} {fields : List (Entity CType)}

end Culprits

/-- The report that an event is, if it does not depend on a name. -/
def Event.report? : Event → Option Diagnostic
  | .ask _ => none
  | .report diagnostic => some diagnostic

@[simp] theorem Event.report?_ask (request : Resolver.Request) :
    (Event.ask request).report? = none := rfl

@[simp] theorem Event.report?_report (diagnostic : Diagnostic) :
    (Event.report diagnostic).report? = some diagnostic := rfl

end Render

/-- What is reported for a tag itself, apart from its names: a struct without a layout, where
instances are wanted. -/
def Tag.reports (options : RenderOptions) (tags : NameMap Tag) (name : String) :
    Tag → List Diagnostic
  | .structure fields =>
    if options.storableInstances && (options.model.placement? tags name).isNone then
      [Render.layoutUnknown name (Render.unsizedField? options.model tags fields)]
    else []
  | .enumeration _ _ => []

namespace Tag

variable {options : RenderOptions} {tags : NameMap Tag} {name : String}
  {fields : List (Entity CType)}

end Tag

namespace Render

section Reports

variable {options : RenderOptions} {tags : NameMap Tag} {name : String}

theorem reports_typeRequests (names : List String) :
    (typeRequests names).filterMap Event.report? = [] := by
  simp [typeRequests]

theorem reports_entityEvents (type : CType) :
    (entityEvents name type).filterMap Event.report? = [] := by
  unfold entityEvents
  rw [List.filterMap_cons_none rfl, reports_typeRequests]

theorem reports_tagEvents (definition : Tag) :
    (definition.events options tags name).filterMap Event.report? =
      definition.reports options tags name := by
  cases definition with
  | «structure» fields =>
    have quiet : (fields.flatMap fun field =>
        .ask ⟨.variable, ⟨name, field.name⟩⟩ :: typeRequests field.type.shownNames).filterMap
          Event.report? = [] := by
      simp only [List.filterMap_flatMap, List.filterMap_cons_none (Event.report?_ask _),
        reports_typeRequests, List.flatMap_eq_nil_iff, implies_true]
    unfold Tag.events Tag.reports
    rw [List.filterMap_append, List.filterMap_cons_none rfl, List.filterMap_cons_none rfl, quiet]
    split <;> rfl
  | enumeration underlying values =>
    unfold Tag.events Tag.reports
    rw [List.filterMap_cons_none rfl, List.filterMap_cons_none rfl, List.filterMap_cons_none rfl,
      List.filterMap_append, reports_typeRequests]
    simp

theorem code_layoutUnknown (field : Option (Entity CType)) :
    (layoutUnknown name field).code = .layoutUnknown := by
  cases field <;> rfl

/-- What is reported for a module, apart from names, is what is reported for its tags. -/
theorem reports_events (contents : Contents) :
    (contents.events options).filterMap Event.report? =
      contents.tags.entries.flatMap fun entry => entry.2.reports options contents.tags entry.1 := by
  unfold Contents.events
  simp only [List.filterMap_append, List.filterMap_flatMap, reports_typeRequests,
    reports_tagEvents, reports_entityEvents, List.nil_append]
  simp

end Reports

end Render

end ForeignBindings
