import ForeignBindings.Proofs.Lowering.Composition
import ForeignBindings.Proofs.Lowering.Parts

/-!
# Chains of typedefs

Typedefs around a type change what it is lowered to in two cases only, from opposite ends. Of a
scalar, the outermost typedef counts that names a standard scalar and is allowed to; of a type
without a name, the innermost one that shows a name. Everything else passes through any chain:
`SourceType.lower_behind_typedefs`.
-/

namespace ForeignBindings

/-- A use of a typedef, apart from the type that it names. -/
structure TypedefUse where
  name : String
  qualifiedName : String
  inSystemHeader : Bool
deriving DecidableEq, Repr

namespace TypedefUse

/-- The use names a scalar: its name is a standard one, and it stands in a system header or the
policy allows it anywhere. -/
structure NamesScalar (policy : LoweringPolicy) (use : TypedefUse) (named : Scalar) : Prop where
  allowed : use.inSystemHeader = true ∨ policy.allowCustomFixedSizeInt = true
  isStandard : Scalar.ofAlias? use.name = some named

/-- The use shows a name to a type without one: its qualified name or, where that is empty, its
plain name. -/
structure Shows (use : TypedefUse) (name : String) : Prop where
  isShown : SourceType.shownName use.name use.qualifiedName = name
  notEmpty : name ≠ ""

/-- The name that the use shows, if it shows one. -/
def shown? (use : TypedefUse) : Option String :=
  let shown := SourceType.shownName use.name use.qualifiedName
  if shown = "" then none else some shown

theorem namedScalar?_eq_some_iff (policy : LoweringPolicy) (use : TypedefUse) (named : Scalar) :
    SourceType.namedScalar? policy use.name use.inSystemHeader = some named ↔
      use.NamesScalar policy named := by
  unfold SourceType.namedScalar?
  rw [Option.ite_none_right_eq_some, Bool.or_eq_true]
  exact ⟨fun ⟨allowed, isStandard⟩ => ⟨allowed, isStandard⟩,
    fun ⟨allowed, isStandard⟩ => ⟨allowed, isStandard⟩⟩

theorem shown?_eq_some_iff (use : TypedefUse) (name : String) :
    use.shown? = some name ↔ use.Shows name := by
  unfold shown?
  rw [Option.ite_none_left_eq_some, Option.some_inj]
  constructor
  · rintro ⟨notEmpty, rfl⟩
    exact ⟨rfl, notEmpty⟩
  · rintro ⟨rfl, notEmpty⟩
    exact ⟨notEmpty, rfl⟩

end TypedefUse

namespace SourceType

/-- A type behind typedefs, the first of which is the outermost. -/
def behind (core : SourceType) (uses : List TypedefUse) : SourceType :=
  uses.foldr (fun use underlying =>
    .typedef use.name use.qualifiedName use.inSystemHeader underlying) core

/-- Refines a type by typedefs, the first of which is the outermost. -/
def refineAll (policy : LoweringPolicy) (uses : List TypedefUse) (type : CType) : CType :=
  uses.foldr (fun use => refineAlias policy use.name use.qualifiedName use.inSystemHeader) type

variable {policy : LoweringPolicy} {location : Location}

/-- Behind typedefs, a type is lowered to itself, refined by all of them. -/
theorem lower_behind_eq_ok {core : SourceType} {type : CType}
    (lowers : core.lower policy location = .ok type) (uses : List TypedefUse) :
    (core.behind uses).lower policy location = .ok (refineAll policy uses type) := by
  induction uses with
  | nil => exact lowers
  | cons use rest inductionHypothesis =>
    exact lower_typedef_eq_ok_iff.mpr ⟨_, inductionHypothesis, rfl⟩

/-- A scalar becomes the one that the outermost typedef names which names any. -/
theorem refineAll_scalar (policy : LoweringPolicy) (uses : List TypedefUse) (leaf : Scalar) :
    refineAll policy uses (.scalar leaf) =
      .scalar ((uses.findSome? fun use =>
        namedScalar? policy use.name use.inSystemHeader).getD leaf) := by
  induction uses with
  | nil => rfl
  | cons use rest inductionHypothesis =>
    unfold refineAll at inductionHypothesis ⊢
    rw [List.foldr_cons, inductionHypothesis, refineAlias_scalar, List.findSome?_cons]
    cases namedScalar? policy use.name use.inSystemHeader <;> rfl

/-- A type without a name gets the one that the innermost typedef shows which shows any. -/
theorem refineAll_untagged (policy : LoweringPolicy) (uses : List TypedefUse) :
    refineAll policy uses (.named "") =
      .named ((uses.reverse.findSome? TypedefUse.shown?).getD "") := by
  induction uses with
  | nil => rfl
  | cons use rest inductionHypothesis =>
    unfold refineAll at inductionHypothesis ⊢
    rw [List.foldr_cons, inductionHypothesis, List.reverse_cons, List.findSome?_append]
    cases found : rest.reverse.findSome? TypedefUse.shown? with
    | none =>
      rw [Option.getD_none, refineAlias_untagged]
      by_cases isEmpty : shownName use.name use.qualifiedName = "" <;>
        simp [TypedefUse.shown?, isEmpty]
    | some name =>
      -- A name from further inside is not empty, so it stays.
      obtain ⟨inner, -, shows⟩ := List.exists_of_findSome?_eq_some found
      have notEmpty := ((inner.shown?_eq_some_iff name).mp shows).notEmpty
      exact refineAlias_eq_self rfl (fun equal => notEmpty (CType.named.inj equal)) ..

/-- Typedefs leave everything else as it is. -/
theorem refineAll_eq_self {type : CType} (noScalar : type.asScalar? = none)
    (hasName : type ≠ .named "") (policy : LoweringPolicy) (uses : List TypedefUse) :
    refineAll policy uses type = type := by
  induction uses with
  | nil => rfl
  | cons use rest inductionHypothesis =>
    unfold refineAll at inductionHypothesis ⊢
    rw [List.foldr_cons, inductionHypothesis, refineAlias_eq_self noScalar hasName]

/-- A chain of typedefs shows in two cases only. Around a scalar, the result is the scalar of the
outermost typedef that names one, or the scalar itself. Around a type without a name, it is the
name that the innermost typedef shows which shows one, or none. Around a named type, a pointer or a
function, it is that type, whatever the typedefs are called. -/
theorem lower_behind_typedefs {core : SourceType} {type : CType} (uses : List TypedefUse)
    (lowers : core.lower policy location = .ok type) :
    ∃ result, (core.behind uses).lower policy location = .ok result ∧
      (∀ leaf, type = .scalar leaf →
        (∀ named, FirstOf uses (TypedefUse.NamesScalar policy) named → result = .scalar named) ∧
        ((∀ use ∈ uses, ∀ named, ¬ use.NamesScalar policy named) → result = type)) ∧
      (type = .named "" →
        (∀ name, FirstOf uses.reverse TypedefUse.Shows name → result = .named name) ∧
        ((∀ use ∈ uses, ∀ name, ¬ use.Shows name) → result = type)) ∧
      (type.asScalar? = none → type ≠ .named "" → result = type) := by
  refine ⟨_, lower_behind_eq_ok lowers uses, ?scalar, ?untagged, fun noScalar hasName =>
    refineAll_eq_self noScalar hasName policy uses⟩
  case scalar =>
    rintro leaf rfl
    rw [refineAll_scalar]
    constructor
    · intro named isFirst
      rw [(findSome?_eq_some_iff_firstOf (TypedefUse.namedScalar?_eq_some_iff policy)).mpr isFirst]
      rfl
    · intro noneNames
      rw [(findSome?_eq_none_iff_gives_nothing
        (TypedefUse.namedScalar?_eq_some_iff policy)).mpr noneNames]
      rfl
  case untagged =>
    rintro rfl
    rw [refineAll_untagged]
    constructor
    · intro name isFirst
      rw [(findSome?_eq_some_iff_firstOf TypedefUse.shown?_eq_some_iff).mpr isFirst]
      rfl
    · intro noneShows
      rw [(findSome?_eq_none_iff_gives_nothing TypedefUse.shown?_eq_some_iff).mpr
        fun use member => noneShows use (List.mem_reverse.mp member)]
      rfl

/-- Typedefs of the standard widths, two of them in a system header, and of a name that is not
standard. -/
def widthUses : List TypedefUse :=
  [⟨"count_t", "", false⟩, ⟨"uint8_t", "", false⟩, ⟨"uint32_t", "", true⟩, ⟨"int16_t", "", true⟩]

/-- Typedefs of which the innermost one shows no name and the next one a qualified name. -/
def shapeUses : List TypedefUse :=
  [⟨"outer", "ns::outer", false⟩, ⟨"shape", "ns::shape", false⟩, ⟨"", "", false⟩]

/-- The outermost standard name in a system header counts, and the innermost name that is shown. -/
theorem lower_behind_widths_and_shapes :
    (builtin .unsignedInt).lower {} .unknown = .ok (.scalar ⟨.unsigned, .int, .unsized⟩) ∧
    ((builtin .unsignedInt).behind widthUses).lower {} .unknown =
      .ok (.scalar ⟨.unsigned, .exact, .bits32⟩) ∧
    (tag "").lower {} .unknown = .ok (.named "") ∧
    ((tag "").behind shapeUses).lower {} .unknown = .ok (.named "ns::shape") ∧
    ((pointer (tag "node")).behind shapeUses).lower {} .unknown =
      .ok (.pointer (.named "node")) := by
  have lowersInt :
      (builtin .unsignedInt).lower {} .unknown = .ok (.scalar ⟨.unsigned, .int, .unsized⟩) := rfl
  have lowersUntagged : (tag "").lower {} .unknown = .ok (.named "") := rfl
  have lowersPointer :
      (pointer (tag "node")).lower {} .unknown = .ok (.pointer (.named "node")) := rfl
  obtain ⟨width, widthLowers, ofScalar, -⟩ := lower_behind_typedefs widthUses lowersInt
  obtain ⟨shape, shapeLowers, -, ofUntagged, -⟩ := lower_behind_typedefs shapeUses lowersUntagged
  obtain ⟨node, nodeLowers, -, -, other⟩ := lower_behind_typedefs shapeUses lowersPointer
  have outermost : FirstOf widthUses (TypedefUse.NamesScalar {}) ⟨.unsigned, .exact, .bits32⟩ :=
    (findSome?_eq_some_iff_firstOf (TypedefUse.namedScalar?_eq_some_iff {})).mp (by decide)
  have innermost : FirstOf shapeUses.reverse TypedefUse.Shows "ns::shape" :=
    (findSome?_eq_some_iff_firstOf TypedefUse.shown?_eq_some_iff).mp (by decide)
  obtain rfl := (ofScalar _ rfl).1 _ outermost
  obtain rfl := (ofUntagged rfl).1 _ innermost
  obtain rfl := other rfl nofun
  exact ⟨lowersInt, widthLowers, lowersUntagged, shapeLowers, nodeLowers⟩

end SourceType

end ForeignBindings
