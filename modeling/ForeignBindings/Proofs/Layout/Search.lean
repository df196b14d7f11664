import ForeignBindings.Proofs.Layout.ByValue
import Mathlib.Data.Finset.Card

/-!
# The search for layouts

The search leaves the structs in progress as it finds them, whatever it finds. It ends
where no enums go round in a circle: each struct that it enters is one more in progress,
and between two structs there are only enums. On such a circle it does not end. What it finds is
what `HasLayout` derives. A struct in progress that is met again is an obstacle only where the type
contains itself, so that with no struct in progress the search misses nothing.
-/

namespace ForeignBindings

open Relation

namespace LayoutSearch

/-- A search ends with an answer and leaves the structs in progress as they are. -/
def Answers {α : Type} (search : LayoutSearch α) (inProgress : List String)
    (answer : α) : Prop :=
  search.run inProgress = some (answer, inProgress)

/-- A search that goes on after an answer ends with the answer of the rest. -/
theorem Answers.bind {α β : Type} {search : LayoutSearch α} {rest : α → LayoutSearch β}
    {inProgress : List String} {answer : α} {last : β} (first : search.Answers inProgress answer)
    (second : (rest answer).Answers inProgress last) :
    (search >>= rest).Answers inProgress last := by
  unfold Answers at first second ⊢
  rw [StateT.run_bind, first]
  exact second

/-- A search that is over ends with its answer. -/
theorem answers_pure {α : Type} (answer : α) (inProgress : List String) :
    (pure answer : LayoutSearch α).Answers inProgress answer :=
  rfl

/-- A search that ends has an outcome. -/
theorem Answers.outcome?_eq {α : Type} {search : LayoutSearch α} {answer : α}
    (answers : search.Answers [] answer) : search.outcome? = some answer := by
  unfold Answers at answers
  simp [outcome?, answers]

/-- The answer that a search ends with is what it finds with no struct in progress. -/
theorem Answers.answer?_eq {α : Type} {search : LayoutSearch (Option α)} {answer : Option α}
    (answers : search.Answers [] answer) : search.answer? = answer := by
  rw [answer?, answers.outcome?_eq, Option.join_some]

end LayoutSearch

section Termination

variable (tags : NameMap Tag)

/-- No enums go round in a circle through their integer types. -/
def NoEnumerationCycle : Prop := ∀ type, ¬ TransGen (ContainsAsInteger tags) type type

/-- What the search for the layout of a type looks at next, with the structs that are then in
progress. -/
inductive Visits : List String × CType → List String × CType → Prop
  | enumeration {inProgress name underlying values}
      (defined : tags.find? name = some (.enumeration underlying values)) :
      Visits (inProgress, .named name) (inProgress, underlying)
  | field {inProgress name fields field} (defined : tags.find? name = some (.structure fields))
      (fresh : name ∉ inProgress) (member : field ∈ fields) :
      Visits (inProgress, .named name) (name :: inProgress, field.type)

/-- The number of tags that are not in progress. -/
def remaining (inProgress : List String) : Nat :=
  (tags.keys.toFinset \ inProgress.toFinset).card

variable {tags}

/-- A tag that comes to be in progress is one less that remains. -/
theorem remaining_cons_lt {inProgress : List String} {name : String} {definition : Tag}
    (defined : tags.find? name = some definition) (fresh : name ∉ inProgress) :
    remaining tags (name :: inProgress) < remaining tags inProgress := by
  apply Finset.card_lt_card
  rw [Finset.ssubset_iff_of_subset]
  · refine ⟨name, ?_, ?_⟩
    · simpa [fresh] using OrderedMap.mem_keys_iff.mpr ⟨definition, defined⟩
    · simp
  · intro other
    simp only [Finset.mem_sdiff, List.mem_toFinset, List.mem_cons, not_or]
    rintro ⟨member, -, absent⟩
    exact ⟨member, absent⟩

/-- Enums that do not go round in a circle end somewhere. -/
theorem NoEnumerationCycle.wellFounded (acyclic : NoEnumerationCycle tags) :
    WellFounded fun underlying type => ContainsAsInteger tags type underlying := by
  refine wellFounded_of_finite_of_acyclic (tags.keys.finite_toSet.image CType.named) ?_ acyclic
  rintro _ _ ⟨defined⟩
  exact ⟨_, OrderedMap.mem_keys_iff.mpr ⟨_, defined⟩, rfl⟩

/-- Enums do not go round in a circle where each has a scalar as its integer type. -/
theorem noEnumerationCycle_of_scalars
    (scalars : ∀ name underlying values,
      tags.find? name = some (.enumeration underlying values) →
        ∃ scalar, underlying = .scalar scalar) :
    NoEnumerationCycle tags := by
  intro type circle
  obtain ⟨next, ⟨defined⟩, further⟩ := TransGen.head'_iff.mp circle
  obtain ⟨scalar, rfl⟩ := scalars _ _ _ defined
  cases further.cases_head with
  | inl same => cases same
  | inr continues =>
    obtain ⟨_, taken, -⟩ := continues
    cases taken

/-- A struct, or an enum whose integer type is a scalar. -/
def Tag.integerIsScalar : Tag → Bool
  | .structure _ => true
  | .enumeration underlying _ => underlying.asScalar?.isSome

/-- Enums do not go round in a circle where a look at the entries shows scalars only. -/
theorem noEnumerationCycle_of_entries
    (scalars : tags.entries.all (fun entry => entry.2.integerIsScalar) = true) :
    NoEnumerationCycle tags := by
  refine noEnumerationCycle_of_scalars fun name underlying values defined => ?_
  have isScalar := List.all_eq_true.mp scalars _ (OrderedMap.mem_entries_iff.mpr defined)
  cases underlying with
  | scalar leaf => exact ⟨leaf, rfl⟩
  | pointer | named | function => cases isScalar

/-- The search visits no more than finitely many places one after the other. -/
theorem NoEnumerationCycle.wellFounded_visits (acyclic : NoEnumerationCycle tags) :
    WellFounded fun next place => Visits tags place next := by
  let measure := fun place : List String × CType => (remaining tags place.1, place.2)
  refine Subrelation.wf ?_ (InvImage.wf measure (Nat.lt_wfRel.wf.prod_lex acyclic.wellFounded))
  rintro _ _ (defined | ⟨defined, fresh, member⟩)
  · exact Prod.Lex.right _ (.enumeration defined)
  · exact Prod.Lex.left _ _ (remaining_cons_lt defined fresh)

end Termination

namespace LayoutRules

section Steps

variable {α β : Type} {rules : LayoutRules α β} {tags : NameMap Tag} {inProgress : List String}
  {name : String}

/-- Where there are no fields, the search for their layouts is over. -/
theorem fieldLayouts_nil :
    rules.fieldLayouts tags [] inProgress = some (some [], inProgress) := by
  rw [fieldLayouts.eq_def]

/-- The search for the layouts of fields is over with a field that has none. -/
theorem fieldLayouts_of_none {field : Entity CType} {rest : List (Entity CType)}
    (first : rules.typeLayout tags field.type inProgress = some (none, inProgress)) :
    rules.fieldLayouts tags (field :: rest) inProgress = some (none, inProgress) := by
  rw [fieldLayouts.eq_def]
  simp [first]

/-- The search for the layouts of fields goes on after a field that has one. -/
theorem fieldLayouts_cons {field : Entity CType} {rest : List (Entity CType)} {layout : α}
    {layouts : Option (List α)}
    (first : rules.typeLayout tags field.type inProgress = some (some layout, inProgress))
    (others : rules.fieldLayouts tags rest inProgress = some (layouts, inProgress)) :
    rules.fieldLayouts tags (field :: rest) inProgress =
      some (layouts.map fun layouts => layout :: layouts, inProgress) := by
  rw [fieldLayouts.eq_def]
  simp [first, others]

/-- A struct in progress is not entered. -/
theorem structLayout_of_mem {fields : List (Entity CType)}
    (defined : tags.find? name = some (.structure fields)) (met : name ∈ inProgress) :
    rules.structLayout tags name inProgress = some (none, inProgress) := by
  rw [structLayout.eq_def, defined]
  simp [met]

/-- A struct is in progress during the search for the layouts of its fields, and only then. -/
theorem structLayout_of_not_mem {fields : List (Entity CType)} {layouts : Option (List α)}
    (defined : tags.find? name = some (.structure fields)) (fresh : name ∉ inProgress)
    (found : rules.fieldLayouts tags fields (name :: inProgress) =
      some (layouts, name :: inProgress)) :
    rules.structLayout tags name inProgress = some (layouts.map rules.place, inProgress) := by
  rw [structLayout.eq_def, defined]
  simp [fresh, found]

/-- What is not a struct has no placement. -/
theorem structLayout_of_not_structure
    (other : ∀ fields, tags.find? name ≠ some (.structure fields)) :
    rules.structLayout tags name inProgress = some (none, inProgress) := by
  rw [structLayout.eq_def]
  split
  case h_1 fields defined => exact absurd defined (other fields)
  case h_2 => rfl

/-- The search for the layout of an enum is that for the layout of its integer type. -/
theorem typeLayout_enumeration {underlying : CType} {values : List Enumerator}
    (defined : tags.find? name = some (.enumeration underlying values)) :
    rules.typeLayout tags (.named name) inProgress =
      rules.typeLayout tags underlying inProgress := by
  rw [typeLayout.eq_def]
  simp only [defined]

/-- The search for the layout of a struct is that for its placement. -/
theorem typeLayout_structure {fields : List (Entity CType)} {placement : Option β}
    (defined : tags.find? name = some (.structure fields))
    (found : rules.structLayout tags name inProgress = some (placement, inProgress)) :
    rules.typeLayout tags (.named name) inProgress =
      some (placement.map rules.layout, inProgress) := by
  rw [typeLayout.eq_def]
  simp [defined, found]

/-- The search for the layout of a type that contains nothing by value is over at once. -/
theorem typeLayout_scalar (scalar : Scalar) :
    rules.typeLayout tags (.scalar scalar) inProgress =
      some (rules.scalar? scalar, inProgress) := by
  rw [typeLayout.eq_def]

theorem typeLayout_pointer (pointee : CType) :
    rules.typeLayout tags (.pointer pointee) inProgress =
      some (some rules.pointer, inProgress) := by
  rw [typeLayout.eq_def]

theorem typeLayout_function (result : CType) (parameters : List (Entity CType)) :
    rules.typeLayout tags (.function result parameters) inProgress = some (none, inProgress) := by
  rw [typeLayout.eq_def]

theorem typeLayout_undefined (undefined : tags.find? name = none) :
    rules.typeLayout tags (.named name) inProgress = some (none, inProgress) := by
  rw [typeLayout.eq_def]
  simp [undefined]

/-- The search for the layouts of fields does not end if that for the first one does not. -/
theorem fieldLayouts_eq_none {field : Entity CType} {rest : List (Entity CType)}
    (first : rules.typeLayout tags field.type inProgress = none) :
    rules.fieldLayouts tags (field :: rest) inProgress = none := by
  rw [fieldLayouts.eq_def]
  simp [first]

/-- The search for the placement of a struct does not end if that for its fields does not. -/
theorem structLayout_eq_none {fields : List (Entity CType)}
    (defined : tags.find? name = some (.structure fields)) (fresh : name ∉ inProgress)
    (endless : rules.fieldLayouts tags fields (name :: inProgress) = none) :
    rules.structLayout tags name inProgress = none := by
  rw [structLayout.eq_def, defined]
  simp [fresh, endless]

end Steps

section Circles

variable {α β : Type} {rules : LayoutRules α β} {tags : NameMap Tag}

/-- What an enum on a circle contains lies on the circle, too. -/
theorem circle_of_enumeration {name : String} {underlying : CType} {values : List Enumerator}
    (defined : tags.find? name = some (.enumeration underlying values))
    (circle : TransGen (ContainsAsInteger tags) (.named name) (.named name)) :
    TransGen (ContainsAsInteger tags) underlying underlying := by
  obtain ⟨next, ⟨alsoDefined⟩, back⟩ := TransGen.head'_iff.mp circle
  cases defined.symm.trans alsoDefined
  exact .tail' back (.enumeration defined)

/-- The search for the layout of a type that lies on a circle of enums does not end. The induction
is on what a search finds that ends. -/
theorem typeLayout_eq_none_of_circle {type : CType}
    (circle : TransGen (ContainsAsInteger tags) type type) (inProgress : List String) :
    rules.typeLayout tags type inProgress = none := by
  rw [Option.eq_none_iff_forall_ne_some]
  intro found ends
  refine typeLayout.partial_correctness rules tags
    (fun type _ _ => ¬ TransGen (ContainsAsInteger tags) type type) (fun _ _ _ => True)
    (fun _ _ _ => True) ?type (fun _ _ _ _ _ _ => trivial) (fun _ _ _ _ _ _ _ _ => trivial)
    type inProgress found ends circle
  intro typeLayout _ inductionHypothesis _ type inProgress found ends circle
  obtain ⟨_, ⟨defined⟩, -⟩ := TransGen.head'_iff.mp circle
  simp only [defined] at ends
  exact inductionHypothesis _ _ _ ends (circle_of_enumeration defined circle)

end Circles

end LayoutRules

namespace DataModel

variable (model : DataModel) (tags : NameMap Tag)

/-- Within a type no struct in progress is met again. -/
def Avoids (inProgress : List String) (type : CType) : Prop :=
  ∀ name ∈ inProgress, ¬ ReflTransGen (ContainsByValue tags) type (.named name)

/-- An answer agrees with what is derivable: what is found is, and where nothing stands in the
way, what is derivable is found. -/
structure Agrees {α : Type} (derivable : α → Prop) (unobstructed : Prop)
    (answer : Option α) : Prop where
  sound : ∀ value, answer = some value → derivable value
  complete : ∀ value, unobstructed → derivable value → answer = some value

/-- The placements that the fields of a struct have. -/
inductive HasPlacement (name : String) : Placement → Prop
  | natural {fields layouts} (defined : tags.find? name = some (.structure fields))
      (all : HaveLayouts model tags fields layouts) : HasPlacement name (.natural layouts)

/-- The search for the layout of a type ends with an answer that agrees with the rules. -/
def TypeSettles (inProgress : List String) (type : CType) : Prop :=
  ∃ answer, (model.typeLayout tags type).Answers inProgress answer ∧
    Agrees (HasLayout model tags type) (Avoids tags inProgress type) answer

/-- The search for the layouts of fields ends with an answer that agrees with the rules. -/
def FieldsSettle (inProgress : List String) (fields : List (Entity CType)) : Prop :=
  ∃ answer, model.rules.fieldLayouts tags fields inProgress = some (answer, inProgress) ∧
    Agrees (HaveLayouts model tags fields) (∀ field ∈ fields, Avoids tags inProgress field.type)
      answer

/-- The search for the placement of a struct ends with an answer that agrees with the rules. -/
def StructSettles (inProgress : List String) (name : String) : Prop :=
  ∃ answer, (model.structLayout tags name).Answers inProgress answer ∧
    Agrees (HasPlacement model tags name) (Avoids tags inProgress (.named name)) answer

variable {model tags} {inProgress : List String}

/-- The search for the layouts of fields settles where it does for each of them. -/
theorem fieldsSettle {fields : List (Entity CType)}
    (each : ∀ field ∈ fields, TypeSettles model tags inProgress field.type) :
    FieldsSettle model tags inProgress fields := by
  induction fields with
  | nil =>
    refine ⟨some [], LayoutRules.fieldLayouts_nil, ?_, ?_⟩
    · rintro _ ⟨⟩
      exact .nil
    · rintro _ - ⟨⟩
      rfl
  | cons field rest inductionHypothesis =>
    obtain ⟨answer, answers, agrees⟩ := each field List.mem_cons_self
    cases answer with
    | none =>
      refine ⟨none, LayoutRules.fieldLayouts_of_none answers, nofun, ?_⟩
      intro layouts avoids derivable
      cases derivable with
      | cons first all => cases agrees.complete _ (avoids field List.mem_cons_self) first
    | some layout =>
      obtain ⟨others, othersAnswer, othersAgree⟩ :=
        inductionHypothesis fun other member => each other (List.mem_cons_of_mem _ member)
      refine ⟨_, LayoutRules.fieldLayouts_cons answers othersAnswer, ?_, ?_⟩
      · intro layouts found
        obtain ⟨otherLayouts, othersFound, rfl⟩ := Option.map_eq_some_iff.mp found
        exact .cons (agrees.sound layout rfl) (othersAgree.sound otherLayouts othersFound)
      · intro layouts avoids derivable
        cases derivable with
        | cons first all =>
          cases agrees.complete _ (avoids field List.mem_cons_self) first
          rw [othersAgree.complete _ (fun other member =>
            avoids other (List.mem_cons_of_mem _ member)) all]
          rfl

/-- The placement of a struct gives the layout of its tag. -/
theorem HasPlacement.hasLayout {name : String} {placement : Placement}
    (has : HasPlacement model tags name placement) :
    HasLayout model tags (.named name) placement.layout := by
  cases has with
  | natural defined all => exact .structure defined all

/-- Below a struct that has a placement, what stays clear of the structs in progress also
stays clear of the struct itself. -/
theorem HasPlacement.avoids_cons {name : String} {placement : Placement}
    {fields : List (Entity CType)} {field : Entity CType}
    (has : HasPlacement model tags name placement)
    (defined : tags.find? name = some (.structure fields))
    (avoids : Avoids tags inProgress (.named name)) (member : field ∈ fields) :
    Avoids tags (name :: inProgress) field.type := by
  have contains : ContainsByValue tags (.named name) field.type := .field defined member
  intro other isOther reaches
  rcases List.mem_cons.mp isOther with rfl | isOther
  · exact not_transGen_self_of_acc has.hasLayout.acc (.head' contains reaches)
  · exact avoids other isOther (.head contains reaches)

/-- The search for the placement of a struct settles where it does for its fields, once the
struct is in progress. -/
theorem structSettles {name : String} {fields : List (Entity CType)}
    (defined : tags.find? name = some (.structure fields))
    (each : name ∉ inProgress → ∀ field ∈ fields,
      TypeSettles model tags (name :: inProgress) field.type) :
    StructSettles model tags inProgress name := by
  by_cases met : name ∈ inProgress
  · refine ⟨none, LayoutRules.structLayout_of_mem defined met, nofun, ?_⟩
    intro placement avoids
    exact absurd .refl (avoids name met)
  · obtain ⟨layouts, answers, agrees⟩ := fieldsSettle (each met)
    refine ⟨_, LayoutRules.structLayout_of_not_mem defined met answers, ?_, ?_⟩
    · intro placement found
      obtain ⟨fieldLayouts, fieldsFound, rfl⟩ := Option.map_eq_some_iff.mp found
      exact .natural defined (agrees.sound fieldLayouts fieldsFound)
    · intro placement avoids has
      cases has with
      | natural alsoDefined all =>
        cases defined.symm.trans alsoDefined
        have clear : ∀ field ∈ fields, Avoids tags (name :: inProgress) field.type :=
          fun field member =>
            HasPlacement.avoids_cons (.natural defined all) defined avoids member
        rw [agrees.complete _ clear all]
        rfl

/-- The search for the placement of what is not a struct finds nothing. -/
theorem structSettles_of_not_structure {name : String}
    (other : ∀ fields, tags.find? name ≠ some (.structure fields)) :
    StructSettles model tags inProgress name := by
  refine ⟨none, LayoutRules.structLayout_of_not_structure other, nofun, ?_⟩
  intro placement avoids has
  cases has with
  | natural defined all => exact absurd defined (other _)

/-- The search for the layout of a type settles where it is over at once and right. -/
theorem typeSettles_of_answers {type : CType} {answer : Option Layout}
    (answers : (model.typeLayout tags type).Answers inProgress answer)
    (right : ∀ layout, answer = some layout ↔ HasLayout model tags type layout) :
    TypeSettles model tags inProgress type :=
  ⟨answer, answers, fun layout => (right layout).mp, fun layout _ => (right layout).mpr⟩

/-- The search for the layout of an enum settles where it does for its integer type. -/
theorem typeSettles_enumeration {name : String} {underlying : CType} {values : List Enumerator}
    (defined : tags.find? name = some (.enumeration underlying values))
    (settles : TypeSettles model tags inProgress underlying) :
    TypeSettles model tags inProgress (.named name) := by
  obtain ⟨answer, answers, agrees⟩ := settles
  have found : (model.typeLayout tags (.named name)).Answers inProgress answer :=
    (LayoutRules.typeLayout_enumeration defined).trans answers
  refine ⟨answer, found, ?_, ?_⟩
  · intro layout found
    exact .enumeration defined (agrees.sound layout found)
  · intro layout avoids has
    have clear : Avoids tags inProgress underlying := fun other member reaches =>
      avoids other member (.head (.enumeration defined) reaches)
    cases has with
    | enumeration alsoDefined has =>
      cases defined.symm.trans alsoDefined
      exact agrees.complete layout clear has
    | «structure» alsoDefined all => cases defined.symm.trans alsoDefined

/-- The search for the layout of a struct settles where it does for its placement. -/
theorem typeSettles_structure {name : String} {fields : List (Entity CType)}
    (defined : tags.find? name = some (.structure fields))
    (settles : StructSettles model tags inProgress name) :
    TypeSettles model tags inProgress (.named name) := by
  obtain ⟨placement, answers, agrees⟩ := settles
  refine ⟨_, LayoutRules.typeLayout_structure defined answers, ?_, ?_⟩
  · intro layout found
    obtain ⟨placement, isFound, rfl⟩ := Option.map_eq_some_iff.mp found
    exact (agrees.sound placement isFound).hasLayout
  · intro layout avoids has
    cases has with
    | enumeration alsoDefined has => cases defined.symm.trans alsoDefined
    | «structure» alsoDefined all =>
      rw [agrees.complete _ avoids (.natural alsoDefined all)]
      rfl

/-- The search for the layout of a type settles where it does for all that it visits next. -/
theorem typeSettles {type : CType}
    (next : ∀ laterInProgress later, Visits tags (inProgress, type) (laterInProgress, later) →
      TypeSettles model tags laterInProgress later) :
    TypeSettles model tags inProgress type := by
  cases type with
  | scalar scalar =>
    refine typeSettles_of_answers (LayoutRules.typeLayout_scalar scalar) fun layout =>
      ⟨.scalar, ?_⟩
    intro has
    cases has with
    | scalar sized => exact sized
  | pointer pointee =>
    refine typeSettles_of_answers (LayoutRules.typeLayout_pointer pointee) fun layout =>
      ⟨?_, ?_⟩
    · rintro ⟨⟩
      exact .pointer pointee
    · rintro ⟨⟩
      rfl
  | function result parameters =>
    refine typeSettles_of_answers (LayoutRules.typeLayout_function result parameters)
      fun layout => ⟨nofun, ?_⟩
    intro has
    cases has
  | named name =>
    cases defined : tags.find? name with
    | none =>
      refine typeSettles_of_answers (LayoutRules.typeLayout_undefined defined)
        fun layout => ⟨nofun, ?_⟩
      intro has
      exact absurd (.undefined defined) has.not_sizeless
    | some definition =>
      cases definition with
      | enumeration underlying values =>
        exact typeSettles_enumeration defined (next _ _ (.enumeration defined))
      | «structure» fields =>
        refine typeSettles_structure defined (structSettles defined ?_)
        intro fresh field member
        exact next _ _ (.field defined fresh member)

/-- Where no enums go round in a circle, the search for the layout of a type settles. The
induction is on what the search visits. -/
theorem typeSettles_of_acyclic (model : DataModel) (acyclic : NoEnumerationCycle tags)
    (inProgress : List String) (type : CType) : TypeSettles model tags inProgress type := by
  have everywhere : ∀ place : List String × CType,
      TypeSettles model tags place.1 place.2 := by
    intro place
    induction place using acyclic.wellFounded_visits.induction with
    | _ place inductionHypothesis =>
      exact typeSettles fun _ _ visits => inductionHypothesis _ visits
  exact everywhere (inProgress, type)

/-- Where no enums go round in a circle, the search for the placement of a struct settles. -/
theorem structSettles_of_acyclic (model : DataModel) (acyclic : NoEnumerationCycle tags)
    (inProgress : List String) (name : String) : StructSettles model tags inProgress name := by
  by_cases defined : ∃ fields, tags.find? name = some (.structure fields)
  · obtain ⟨fields, defined⟩ := defined
    exact structSettles defined fun _ field _ =>
      typeSettles_of_acyclic model acyclic _ field.type
  · exact structSettles_of_not_structure fun fields same => defined ⟨fields, same⟩

end DataModel

end ForeignBindings
