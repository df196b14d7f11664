import ForeignBindings.Layout.ByValue
import Mathlib.Data.List.Forall2
import Mathlib.Order.WellFoundedSet

/-!
# What has a layout

`HasLayout` derives the layouts of types from those of the types that they contain by
value, without regard to any search. A type contains another by value as the integer type
of an enum or as the type of a field. A type has a layout unless what it contains, directly
or not, includes something of no size or a type that contains itself:
`exists_hasLayout_iff`.
-/

namespace ForeignBindings

open Relation

section Containment

variable (tags : NameMap Tag)

/-- An enum contains its integer type by value. -/
inductive ContainsAsInteger : CType → CType → Prop
  | enumeration {name underlying values}
      (defined : tags.find? name = some (.enumeration underlying values)) :
      ContainsAsInteger (.named name) underlying

/-- An enum contains its integer type by value, and a struct contains its fields. -/
inductive ContainsByValue : CType → CType → Prop
  | enumeration {name underlying values}
      (defined : tags.find? name = some (.enumeration underlying values)) :
      ContainsByValue (.named name) underlying
  | field {name fields field} (defined : tags.find? name = some (.structure fields))
      (member : field ∈ fields) : ContainsByValue (.named name) field.type

/-- A scalar without a size: void, or one of a family that fixes a width without a width that
is a number. -/
inductive Scalar.Sizeless (scalar : Scalar) : Prop
  | void (family : scalar.family = .void)
  | fixedWidth (family : scalar.family ∈ [.unicodeChar, .exact, .least, .fast])
      (noNumber : scalar.width.bytes? = none)

/-- A type without a size of its own that contains nothing: a scalar without a size, a
function, or a tag without a definition. -/
inductive Sizeless : CType → Prop
  | scalar {scalar} (sizeless : scalar.Sizeless) : Sizeless (.scalar scalar)
  | function (result parameters) : Sizeless (.function result parameters)
  | undefined {name} (undefined : tags.find? name = none) : Sizeless (.named name)

/-- A type leads to something of no size, or to a type that contains itself. -/
def LeadsToSizeless (type : CType) : Prop :=
  ∃ reached, ReflTransGen (ContainsByValue tags) type reached ∧
    (Sizeless tags reached ∨ TransGen (ContainsByValue tags) reached reached)

end Containment

section Layouts

variable (model : DataModel) (tags : NameMap Tag)

mutual

/-- The layouts that types have. -/
inductive HasLayout : CType → Layout → Prop
  | scalar {scalar layout} (sized : model.scalar? scalar = some layout) :
      HasLayout (.scalar scalar) layout
  | pointer (pointee) : HasLayout (.pointer pointee) model.pointer
  | enumeration {name underlying values layout}
      (defined : tags.find? name = some (.enumeration underlying values))
      (has : HasLayout underlying layout) : HasLayout (.named name) layout
  | structure {name fields layouts} (defined : tags.find? name = some (.structure fields))
      (all : HaveLayouts fields layouts) :
      HasLayout (.named name) (Placement.natural layouts).layout

/-- The layouts of fields, in order. -/
inductive HaveLayouts : List (Entity CType) → List Layout → Prop
  | nil : HaveLayouts [] []
  | cons {field layout rest layouts} (first : HasLayout field.type layout)
      (others : HaveLayouts rest layouts) : HaveLayouts (field :: rest) (layout :: layouts)

end

end Layouts

/-- Where no path returns to its start, and steps start from finitely many places only, no
path goes on forever. -/
theorem wellFounded_of_finite_of_acyclic {α : Type} {step : α → α → Prop} {places : Set α}
    (finite : places.Finite) (starts : ∀ {start next}, step start next → start ∈ places)
    (acyclic : ∀ place, ¬ TransGen step place place) :
    WellFounded fun next start => step start next := by
  have : IsStrictOrder α fun next start => TransGen step start next :=
    { irrefl := acyclic, trans := fun _ _ _ second first => first.trans second }
  have fromPlaces : ∀ place ∈ places, Acc (fun next start => step start next) place := by
    intro place member
    refine finite.wellFoundedOn.induction (r := fun next start => TransGen step start next)
      member ?_
    intro place member inductionHypothesis
    refine ⟨place, fun next taken => ?_⟩
    by_cases continues : next ∈ places
    · exact inductionHypothesis next continues (.single taken)
    · exact ⟨next, fun _ further => absurd (starts further) continues⟩
  refine ⟨fun place => ⟨place, fun next taken => ?_⟩⟩
  by_cases continues : next ∈ places
  · exact fromPlaces next continues
  · exact ⟨next, fun _ further => absurd (starts further) continues⟩

/-- What no infinite path leaves does not lie on a circle. -/
theorem not_transGen_self_of_acc {α : Type} {step : α → α → Prop} {place : α}
    (ends : Acc (fun next start => step start next) place) : ¬ TransGen step place place := by
  have noCircle : ∀ place, Acc (TransGen fun next start => step start next) place →
      ¬ TransGen (fun next start => step start next) place place := by
    intro place ends
    induction ends with
    | intro place _ inductionHypothesis =>
      intro circle
      exact inductionHypothesis place circle circle
  rw [← transGen_swap]
  exact noCircle place ends.transGen

/-- What contains something by value is a tag that the module defines. -/
theorem ContainsByValue.start_mem {tags : NameMap Tag} {type contained : CType}
    (contains : ContainsByValue tags type contained) :
    type ∈ CType.named '' {name | name ∈ tags.keys} := by
  cases contains with
  | enumeration defined => exact ⟨_, OrderedMap.mem_keys_iff.mpr ⟨_, defined⟩, rfl⟩
  | field defined member => exact ⟨_, OrderedMap.mem_keys_iff.mpr ⟨_, defined⟩, rfl⟩

variable {model : DataModel} {tags : NameMap Tag}

/-- A scalar has no layout exactly when it has no size. -/
theorem scalar?_eq_none_iff {scalar : Scalar} :
    model.scalar? scalar = none ↔ scalar.Sizeless := by
  unfold DataModel.scalar?
  rw [Option.map_eq_none_iff]
  constructor
  · intro missing
    cases family : scalar.family with
    | void => exact .void family
    | unicodeChar | exact | least | fast =>
      refine .fixedWidth (by simp [family]) ?_
      simpa [DataModel.scalarSize?, family] using missing
    | wideChar | long | special =>
      simp only [DataModel.scalarSize?, family] at missing
      split at missing <;> cases missing
    | _ => simp [DataModel.scalarSize?, family] at missing
  · rintro (family | ⟨family, noNumber⟩)
    · simp [DataModel.scalarSize?, family]
    · simp only [List.mem_cons, List.not_mem_nil, or_false] at family
      rcases family with family | family | family | family <;>
        simp [DataModel.scalarSize?, family, noNumber]

/-- Containment ends below an enum when it does below its integer type. -/
theorem acc_enumeration {name : String} {underlying : CType} {values : List Enumerator}
    (defined : tags.find? name = some (.enumeration underlying values))
    (ends : Acc (fun contained type => ContainsByValue tags type contained) underlying) :
    Acc (fun contained type => ContainsByValue tags type contained) (.named name) := by
  refine ⟨_, fun contained contains => ?_⟩
  cases contains with
  | enumeration alsoDefined =>
    cases defined.symm.trans alsoDefined
    exact ends
  | field alsoDefined member => cases defined.symm.trans alsoDefined

/-- Containment ends below a struct when it does below its fields. -/
theorem acc_structure {name : String} {fields : List (Entity CType)}
    (defined : tags.find? name = some (.structure fields))
    (each : ∀ field ∈ fields,
      Acc (fun contained type => ContainsByValue tags type contained) field.type) :
    Acc (fun contained type => ContainsByValue tags type contained) (.named name) := by
  refine ⟨_, fun contained contains => ?_⟩
  cases contains with
  | enumeration alsoDefined => cases defined.symm.trans alsoDefined
  | field alsoDefined member =>
    cases defined.symm.trans alsoDefined
    exact each _ member

mutual

/-- Containment ends below a type that has a layout. -/
theorem HasLayout.acc {type : CType} {layout : Layout} :
    HasLayout model tags type layout →
      Acc (fun contained type => ContainsByValue tags type contained) type
  | .scalar _ => ⟨_, nofun⟩
  | .pointer _ => ⟨_, nofun⟩
  | .enumeration defined has => acc_enumeration defined has.acc
  | .structure defined all => acc_structure defined all.acc

/-- Containment ends below fields that have layouts. -/
theorem HaveLayouts.acc {fields : List (Entity CType)} {layouts : List Layout} :
    HaveLayouts model tags fields layouts → ∀ field ∈ fields,
      Acc (fun contained type => ContainsByValue tags type contained) field.type
  | .nil => nofun
  | .cons first others => List.forall_mem_cons.mpr ⟨first.acc, others.acc⟩

end

/-- Of fields that have layouts, each has one. -/
theorem HaveLayouts.of_mem {fields : List (Entity CType)} {layouts : List Layout}
    {field : Entity CType} (all : HaveLayouts model tags fields layouts) (member : field ∈ fields) :
    ∃ layout, HasLayout model tags field.type layout := by
  induction fields generalizing layouts with
  | nil => cases member
  | cons other rest inductionHypothesis =>
    cases all with
    | cons first others =>
      cases member with
      | head => exact ⟨_, first⟩
      | tail _ member => exact inductionHypothesis others member

/-- Fields that each have a layout have layouts. -/
theorem exists_haveLayouts {fields : List (Entity CType)}
    (each : ∀ field ∈ fields, ∃ layout, HasLayout model tags field.type layout) :
    ∃ layouts, HaveLayouts model tags fields layouts := by
  induction fields with
  | nil => exact ⟨[], .nil⟩
  | cons field rest inductionHypothesis =>
    obtain ⟨layout, first⟩ := each field List.mem_cons_self
    obtain ⟨layouts, others⟩ :=
      inductionHypothesis fun other member => each other (List.mem_cons_of_mem _ member)
    exact ⟨layout :: layouts, .cons first others⟩

/-- What a type that has a layout contains has one, too. -/
theorem HasLayout.of_contains {type contained : CType} {layout : Layout}
    (has : HasLayout model tags type layout) (contains : ContainsByValue tags type contained) :
    ∃ layout, HasLayout model tags contained layout := by
  cases has with
  | scalar sized => cases contains
  | pointer pointee => cases contains
  | enumeration defined has =>
    cases contains with
    | enumeration alsoDefined =>
      cases defined.symm.trans alsoDefined
      exact ⟨_, has⟩
    | field alsoDefined member => cases defined.symm.trans alsoDefined
  | «structure» defined all =>
    cases contains with
    | enumeration alsoDefined => cases defined.symm.trans alsoDefined
    | field alsoDefined member =>
      cases defined.symm.trans alsoDefined
      exact all.of_mem member

/-- What has a layout has a size. -/
theorem HasLayout.not_sizeless {type : CType} {layout : Layout}
    (has : HasLayout model tags type layout) : ¬ Sizeless tags type := by
  intro sizeless
  cases sizeless with
  | scalar sizeless =>
    cases has with
    | scalar sized =>
      rw [scalar?_eq_none_iff.mpr sizeless] at sized
      cases sized
  | function result parameters => cases has
  | undefined undefined =>
    cases has with
    | enumeration defined has => cases undefined.symm.trans defined
    | «structure» defined all => cases undefined.symm.trans defined

/-- A type that is not without a size has a layout once everything that it contains has. -/
theorem exists_hasLayout_of_contained {type : CType} (sized : ¬ Sizeless tags type)
    (contained : ∀ other, ContainsByValue tags type other →
      ∃ layout, HasLayout model tags other layout) :
    ∃ layout, HasLayout model tags type layout := by
  cases type with
  | scalar scalar =>
    cases found : model.scalar? scalar with
    | none => exact absurd (.scalar (scalar?_eq_none_iff.mp found)) sized
    | some layout => exact ⟨layout, .scalar found⟩
  | pointer pointee => exact ⟨_, .pointer pointee⟩
  | function result parameters => exact absurd (.function result parameters) sized
  | named name =>
    cases defined : tags.find? name with
    | none => exact absurd (.undefined defined) sized
    | some definition =>
      cases definition with
      | enumeration underlying values =>
        obtain ⟨layout, has⟩ := contained underlying (.enumeration defined)
        exact ⟨layout, .enumeration defined has⟩
      | «structure» fields =>
        obtain ⟨layouts, all⟩ := exists_haveLayouts fun field member =>
          contained field.type (.field defined member)
        exact ⟨_, .structure defined all⟩

/-- What a type that has a layout leads to has a layout. -/
theorem HasLayout.of_reaches {type reached : CType} {layout : Layout}
    (has : HasLayout model tags type layout)
    (reaches : ReflTransGen (ContainsByValue tags) type reached) :
    ∃ layout, HasLayout model tags reached layout := by
  induction reaches with
  | refl => exact ⟨layout, has⟩
  | tail _ contains inductionHypothesis =>
    obtain ⟨_, hasBefore⟩ := inductionHypothesis
    exact hasBefore.of_contains contains

/-- A type that does not lead to something of no size has a layout. The induction is on the
paths of containment from the type, which end since there are finitely many tags. -/
theorem exists_hasLayout_of_not_leadsToSizeless {type : CType}
    (sized : ¬ LeadsToSizeless tags type) : ∃ layout, HasLayout model tags type layout := by
  let step := fun start next =>
    ReflTransGen (ContainsByValue tags) type start ∧ ContainsByValue tags start next
  have ends : WellFounded fun next start => step start next := by
    refine wellFounded_of_finite_of_acyclic (tags.keys.finite_toSet.image CType.named)
      (fun taken => taken.2.start_mem) ?_
    intro place circle
    obtain ⟨next, ⟨reaches, -⟩, -⟩ := TransGen.head'_iff.mp circle
    have contained := circle.lift id fun _ _ taken => taken.2
    exact sized ⟨place, reaches, .inr contained⟩
  have everywhere : ∀ reached, ReflTransGen (ContainsByValue tags) type reached →
      ∃ layout, HasLayout model tags reached layout := by
    intro reached
    induction reached using ends.induction with
    | _ reached inductionHypothesis =>
      intro reaches
      refine exists_hasLayout_of_contained (fun sizeless => sized ⟨reached, reaches, .inl sizeless⟩)
        fun other contains => ?_
      exact inductionHypothesis other ⟨reaches, contains⟩ (reaches.tail contains)
  exact everywhere type .refl

/-- A type has a layout exactly when it does not lead to something of no size. -/
theorem exists_hasLayout_iff (model : DataModel) {type : CType} :
    (∃ layout, HasLayout model tags type layout) ↔ ¬ LeadsToSizeless tags type := by
  constructor
  · rintro ⟨layout, has⟩ ⟨reached, reaches, sizeless | circle⟩
    · obtain ⟨_, hasReached⟩ := has.of_reaches reaches
      exact hasReached.not_sizeless sizeless
    · obtain ⟨_, hasReached⟩ := has.of_reaches reaches
      exact not_transGen_self_of_acc hasReached.acc circle
  · exact exists_hasLayout_of_not_leadsToSizeless

end ForeignBindings
