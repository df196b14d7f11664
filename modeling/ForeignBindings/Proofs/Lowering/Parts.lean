import ForeignBindings.Proofs.Lowering.Binding

/-!
# The parts of a type

A type is lowered from its parts, one law for each kind of node that has any. The nodes that have
no counterpart are `SourceType.Offends`; they are rejected whatever stands below them, and a type
is lowered only if each of its parts is.
-/

namespace ForeignBindings

/-- Of lists that are related item by item, every item of the first has a partner in the
second. -/
theorem exists_of_forall₂_of_mem {α β : Type} {related : α → β → Prop} {items : List α}
    {others : List β} (pairs : List.Forall₂ related items others) {item : α}
    (member : item ∈ items) : ∃ other ∈ others, related item other := by
  induction pairs with
  | nil => cases member
  | @cons _ other _ rest first _ inductionHypothesis =>
    rcases List.mem_cons.mp member with rfl | later
    · exact ⟨other, List.mem_cons_self, first⟩
    · obtain ⟨partner, isPartner, holds⟩ := inductionHypothesis later
      exact ⟨partner, List.mem_cons_of_mem _ isPartner, holds⟩

namespace SourceType

/-- The name that a typedef shows: the qualified one, if there is one. -/
def shownName (name qualifiedName : String) : String :=
  if qualifiedName = "" then name else qualifiedName

/-- The scalar that a typedef names: one of a standard name, in a system header or wherever the
policy allows it. -/
def namedScalar? (policy : LoweringPolicy) (name : String) (inSystemHeader : Bool) :
    Option Scalar :=
  if inSystemHeader || policy.allowCustomFixedSizeInt then Scalar.ofAlias? name else none

/-- A type occurs in another one: at its place, behind pointers and typedefs, or in the result or
a parameter of a prototype. -/
inductive Occurs (part : SourceType) : SourceType → Prop
  | here : Occurs part part
  | pointer {pointee} (inside : Occurs part pointee) : Occurs part (.pointer pointee)
  | typedef {name qualifiedName inSystemHeader underlying} (inside : Occurs part underlying) :
      Occurs part (.typedef name qualifiedName inSystemHeader underlying)
  | result {convention result parameters} (inside : Occurs part result) :
      Occurs part (.prototype convention result parameters)
  | parameter {convention result parameters parameter} (member : parameter ∈ parameters)
      (inside : Occurs part parameter) : Occurs part (.prototype convention result parameters)

/-- A node has no counterpart, whatever stands below it: a builtin without a portable scalar, a
reference, a prototype with a foreign calling convention, or what is not classified. -/
inductive Offends : SourceType → LoweringError → Prop
  | builtin {kind} (noScalar : Scalar.ofBuiltin? kind = none) :
      Offends (.builtin kind) (.unsupportedBuiltin kind.displayName)
  | lvalueReference {referee} : Offends (.lvalueReference referee) .unsupportedReference
  | rvalueReference {referee} : Offends (.rvalueReference referee) .unsupportedReference
  | convention {convention result parameters} (foreign : convention ≠ .c) :
      Offends (.prototype convention result parameters) (.unsupportedConvention convention)
  | other {description} : Offends (.other description) (.unknownConstruct description)

variable {policy : LoweringPolicy} {location : Location}

/-- A node without a counterpart is rejected where it stands. -/
theorem Offends.lower_eq {type : SourceType} {error : LoweringError}
    (offends : type.Offends error) :
    type.lower policy location = .error ⟨error, location, []⟩ := by
  cases offends with
  | builtin noScalar => simp only [lower, noScalar]
  | lvalueReference => rfl
  | rvalueReference => rfl
  | convention foreign => simp only [lower, if_pos foreign]
  | other => rfl

/-- A node has one thing wrong with it. -/
theorem Offends.unique {type : SourceType} {error other : LoweringError}
    (offends : type.Offends error) (offendsOther : type.Offends other) : error = other := by
  cases offends <;> cases offendsOther <;> rfl

/-- A pointer is lowered as what it points to. -/
theorem lower_pointer_eq_ok_iff {pointee : SourceType} {type : CType} :
    (pointer pointee).lower policy location = .ok type ↔
      ∃ lowered, pointee.lower policy location = .ok lowered ∧ .pointer lowered = type := by
  rw [lower]
  cases pointee.lower policy location <;> simp [Except.map]

/-- A typedef refines a scalar to the one that it names, if it names one. -/
theorem refineAlias_scalar (policy : LoweringPolicy) (name qualifiedName : String)
    (inSystemHeader : Bool) (leaf : Scalar) :
    refineAlias policy name qualifiedName inSystemHeader (.scalar leaf) =
      .scalar ((namedScalar? policy name inSystemHeader).getD leaf) := by
  simp only [refineAlias, namedScalar?]
  split <;> rfl

/-- A type without a name takes the name that the typedef shows. -/
theorem refineAlias_untagged (policy : LoweringPolicy) (name qualifiedName : String)
    (inSystemHeader : Bool) :
    refineAlias policy name qualifiedName inSystemHeader (.named "") =
      .named (shownName name qualifiedName) := by
  unfold refineAlias shownName
  by_cases unqualified : qualifiedName = "" <;> simp [unqualified]

/-- A typedef leaves everything else as it is. -/
theorem refineAlias_eq_self {type : CType} (noScalar : type.asScalar? = none)
    (hasName : type ≠ .named "") (policy : LoweringPolicy) (name qualifiedName : String)
    (inSystemHeader : Bool) : refineAlias policy name qualifiedName inSystemHeader type = type := by
  cases type with
  | scalar leaf => cases noScalar
  | named found => simp_all [refineAlias]
  | pointer pointee => rfl
  | function result parameters => rfl

/-- A typedef is lowered as the type that it names, and then refined. -/
theorem lower_typedef_eq_ok_iff {name qualifiedName : String} {inSystemHeader : Bool}
    {underlying : SourceType} {type : CType} :
    (typedef name qualifiedName inSystemHeader underlying).lower policy location = .ok type ↔
      ∃ named, underlying.lower policy location = .ok named ∧
        refineAlias policy name qualifiedName inSystemHeader named = type := by
  rw [lower]
  cases underlying.lower policy location <;> simp [Rejection.enclose, Except.mapError, Except.map]

/-- The parameters of a prototype are lowered one by one, and have no names. -/
theorem lowerParameters_eq_ok_iff {index : Nat} {parameters : List SourceType}
    {lowered : List (Entity CType)} :
    lowerParameters policy location index parameters = .ok lowered ↔
      List.Forall₂ (fun parameter lowered => lowered.name = "" ∧
        parameter.lower policy location = .ok lowered.type) parameters lowered := by
  induction parameters generalizing index lowered with
  | nil =>
    cases lowered with
    | nil => exact ⟨fun _ => .nil, fun _ => rfl⟩
    | cons first rest =>
      constructor
      · intro lowers
        cases lowers
      · intro lowers
        cases lowers
  | cons parameter rest inductionHypothesis =>
    unfold lowerParameters
    simp only [except_bind_eq_ok_iff, Rejection.enclose_eq_ok_iff, inductionHypothesis]
    constructor
    · rintro ⟨type, lowersFirst, others, lowersRest, equal⟩
      cases equal
      exact .cons ⟨rfl, lowersFirst⟩ lowersRest
    · intro lowers
      cases lowers with
      | @cons _ first _ others lowersFirst lowersRest =>
        obtain ⟨noName, lowersType⟩ := lowersFirst
        refine ⟨first.type, lowersType, others, lowersRest, ?_⟩
        rw [← noName]
        rfl

/-- A prototype is lowered part by part. -/
theorem lower_prototype_eq_ok {convention : CallConvention} {result : SourceType}
    {parameters : List SourceType} {type : CType}
    (lowers : (prototype convention result parameters).lower policy location = .ok type) :
    ∃ loweredResult loweredParameters, type = .function loweredResult loweredParameters ∧
      result.lower policy location = .ok loweredResult ∧
      List.Forall₂ (fun parameter lowered => lowered.name = "" ∧
        parameter.lower policy location = .ok lowered.type) parameters loweredParameters := by
  unfold lower at lowers
  split at lowers
  case isTrue => cases lowers
  case isFalse =>
    simp only [except_bind_eq_ok_iff, Rejection.enclose_eq_ok_iff, lowerParameters_eq_ok_iff]
      at lowers
    obtain ⟨loweredResult, lowersResult, loweredParameters, lowersParameters, equal⟩ := lowers
    exact ⟨loweredResult, loweredParameters, (Except.ok.inj equal).symm, lowersResult,
      lowersParameters⟩

/-- A type is lowered only if each of its parts is. -/
theorem Occurs.lowers {part whole : SourceType} (occurs : part.Occurs whole) {type : CType}
    (lowersWhole : whole.lower policy location = .ok type) :
    ∃ lowered, part.lower policy location = .ok lowered := by
  induction occurs generalizing type with
  | here => exact ⟨type, lowersWhole⟩
  | pointer inside inductionHypothesis =>
    obtain ⟨_, lowersPointee, -⟩ := lower_pointer_eq_ok_iff.mp lowersWhole
    exact inductionHypothesis lowersPointee
  | «typedef» inside inductionHypothesis =>
    obtain ⟨_, lowersNamed, -⟩ := lower_typedef_eq_ok_iff.mp lowersWhole
    exact inductionHypothesis lowersNamed
  | result inside inductionHypothesis =>
    obtain ⟨_, _, -, lowersResult, -⟩ := lower_prototype_eq_ok lowersWhole
    exact inductionHypothesis lowersResult
  | parameter member inside inductionHypothesis =>
    obtain ⟨_, _, -, -, lowersParameters⟩ := lower_prototype_eq_ok lowersWhole
    obtain ⟨_, -, -, lowersParameter⟩ := exists_of_forall₂_of_mem lowersParameters member
    exact inductionHypothesis lowersParameter

/-- No part of a type that is lowered is without a counterpart. -/
theorem Occurs.not_offends {part whole : SourceType} (occurs : part.Occurs whole) {type : CType}
    (lowersWhole : whole.lower policy location = .ok type) (error : LoweringError) :
    ¬ part.Offends error := by
  intro offends
  obtain ⟨_, lowersPart⟩ := occurs.lowers lowersWhole
  cases offends.lower_eq.symm.trans lowersPart

end SourceType

end ForeignBindings
