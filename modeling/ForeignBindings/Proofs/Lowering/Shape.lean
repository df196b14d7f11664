import ForeignBindings.Proofs.Lowering.Offence

/-!
# The shape of a lowered type

What a policy decides about a type is which scalars stand at its leaves. Whether the type is
lowered, what it is rejected for, and everything in the result but the scalars is settled by its
tree: `SourceType.lowering_independent_of_policy`.
-/

namespace ForeignBindings

namespace CType

mutual

/-- The type with the given scalar at every leaf that is a scalar. -/
def withScalars (leaf : Scalar) : CType → CType
  | .scalar _ => .scalar leaf
  | .pointer pointee => .pointer (pointee.withScalars leaf)
  | .named name => .named name
  | .function result parameters =>
    .function (result.withScalars leaf) (withScalarsAll leaf parameters)
termination_by structural type => type

/-- The parameters with the given scalar at every leaf that is a scalar. -/
def withScalarsAll (leaf : Scalar) : List (Entity CType) → List (Entity CType)
  | [] => []
  | ⟨name, type⟩ :: rest => ⟨name, type.withScalars leaf⟩ :: withScalarsAll leaf rest
termination_by structural parameters => parameters

end

mutual

/-- The scalars of a type have no part in the names that it mentions. -/
theorem mentionedNames_withScalars (leaf : Scalar) (type : CType) :
    (type.withScalars leaf).mentionedNames = type.mentionedNames := by
  match type with
  | .scalar _ | .named _ => rfl
  | .pointer pointee =>
    unfold withScalars mentionedNames
    exact mentionedNames_withScalars leaf pointee
  | .function result parameters =>
    unfold withScalars mentionedNames
    rw [mentionedNames_withScalars leaf result, mentionedNamesAll_withScalarsAll leaf parameters]
termination_by structural type

/-- The scalars of parameters have no part in the names that their types mention. -/
theorem mentionedNamesAll_withScalarsAll (leaf : Scalar) (parameters : List (Entity CType)) :
    mentionedNamesAll (withScalarsAll leaf parameters) = mentionedNamesAll parameters := by
  match parameters with
  | [] => rfl
  | ⟨_, type⟩ :: rest =>
    unfold withScalarsAll mentionedNamesAll
    rw [mentionedNames_withScalars leaf type, mentionedNamesAll_withScalarsAll leaf rest]
termination_by structural parameters

end

/-- Types of one shape are alike in whether they can be written. -/
theorem mentionsAnonymous_eq_of_withScalars {leaf : Scalar} {type other : CType}
    (alike : type.withScalars leaf = other.withScalars leaf) :
    type.mentionsAnonymous = other.mentionsAnonymous := by
  unfold mentionsAnonymous
  rw [← mentionedNames_withScalars leaf type, alike, mentionedNames_withScalars]

/-- Types of one shape are alike in whether their values cross the language boundary. -/
theorem isMarshallable_eq_of_withScalars {leaf : Scalar} {type other : CType}
    (alike : type.withScalars leaf = other.withScalars leaf) :
    type.isMarshallable = other.isMarshallable := by
  cases type <;> cases other <;> first | rfl | cases alike

end CType

namespace SourceType

variable {location : Location} {leaf : Scalar}

/-- A typedef refines types of one shape to types of one shape, under any policies. -/
theorem withScalars_refineAlias {type other : CType}
    (alike : type.withScalars leaf = other.withScalars leaf) (policy otherPolicy : LoweringPolicy)
    (name qualifiedName : String) (inSystemHeader : Bool) :
    (refineAlias policy name qualifiedName inSystemHeader type).withScalars leaf =
      (refineAlias otherPolicy name qualifiedName inSystemHeader other).withScalars leaf := by
  cases type with
  | scalar found =>
    cases other <;> cases alike
    rw [refineAlias_scalar, refineAlias_scalar]
    rfl
  | named found =>
    cases other <;> cases alike
    rfl
  | pointer pointee => cases other <;> first | exact alike | cases alike
  | function result parameters => cases other <;> first | exact alike | cases alike

/-- Parameters that stem from one list have one shape if each of them does. -/
theorem withScalarsAll_lower {policy otherPolicy : LoweringPolicy} {parameters : List SourceType}
    (alike : ∀ parameter ∈ parameters, ∀ {type other : CType},
      parameter.lower policy location = .ok type →
      parameter.lower otherPolicy location = .ok other →
      type.withScalars leaf = other.withScalars leaf)
    {lowered other : List (Entity CType)}
    (lowers : List.Forall₂ (fun parameter lowered => lowered.name = "" ∧
      parameter.lower policy location = .ok lowered.type) parameters lowered)
    (lowersOther : List.Forall₂ (fun parameter lowered => lowered.name = "" ∧
      parameter.lower otherPolicy location = .ok lowered.type) parameters other) :
    CType.withScalarsAll leaf lowered = CType.withScalarsAll leaf other := by
  induction lowers generalizing other with
  | nil =>
    cases lowersOther
    rfl
  | cons first _ inductionHypothesis =>
    cases lowersOther with
    | cons firstOther restOther =>
      obtain ⟨ofFirst, ofRest⟩ := List.forall_mem_cons.mp alike
      unfold CType.withScalarsAll
      rw [first.1, firstOther.1, ofFirst first.2 firstOther.2, inductionHypothesis ofRest restOther]

/-- Types that stem from one type under two policies have one shape. -/
theorem withScalars_lower {policy otherPolicy : LoweringPolicy} {source : SourceType}
    {type other : CType} (lowers : source.lower policy location = .ok type)
    (lowersOther : source.lower otherPolicy location = .ok other) :
    type.withScalars leaf = other.withScalars leaf := by
  induction source using SourceType.induction generalizing type other with
  | builtin kind =>
    have same : (builtin kind).lower policy location = (builtin kind).lower otherPolicy location :=
      rfl
    cases lowers.symm.trans (same.trans lowersOther)
    rfl
  | lvalueReference referee => cases lowers
  | rvalueReference referee => cases lowers
  | other description => cases lowers
  | templateSpecialization printedName =>
    cases lowers
    cases lowersOther
    rfl
  | tag name =>
    cases lowers
    cases lowersOther
    rfl
  | pointer pointee inductionHypothesis =>
    obtain ⟨target, lowersTarget, rfl⟩ := lower_pointer_eq_ok_iff.mp lowers
    obtain ⟨otherTarget, lowersOtherTarget, rfl⟩ := lower_pointer_eq_ok_iff.mp lowersOther
    exact congrArg CType.pointer (inductionHypothesis lowersTarget lowersOtherTarget)
  | «typedef» name qualifiedName inSystemHeader underlying inductionHypothesis =>
    obtain ⟨named, lowersNamed, rfl⟩ := lower_typedef_eq_ok_iff.mp lowers
    obtain ⟨otherNamed, lowersOtherNamed, rfl⟩ := lower_typedef_eq_ok_iff.mp lowersOther
    exact withScalars_refineAlias (inductionHypothesis lowersNamed lowersOtherNamed) ..
  | prototype convention result parameters ofResult ofParameters =>
    obtain ⟨loweredResult, loweredParameters, rfl, lowersResult, lowersParameters⟩ :=
      lower_prototype_eq_ok lowers
    obtain ⟨otherResult, otherParameters, rfl, lowersOtherResult, lowersOtherParameters⟩ :=
      lower_prototype_eq_ok lowersOther
    unfold CType.withScalars
    rw [ofResult lowersResult lowersOtherResult,
      withScalarsAll_lower ofParameters lowersParameters lowersOtherParameters]

/-- Lowering depends on the tree of a type, and on the policy in its scalars only. A type is lowered
exactly if no node in it is without a counterpart, and so only if each of its parts is. Under any
two policies it is rejected in the same way, or lowered to types that differ in scalars at most. -/
theorem lowering_independent_of_policy (location : Location) (type : SourceType) :
    (∀ policy, (∃ lowered, type.lower policy location = .ok lowered) ↔
      ∀ part : SourceType, part.Occurs type → ∀ error, ¬ part.Offends error) ∧
    (∀ (policy : LoweringPolicy) (part : SourceType), part.Occurs type →
      ∀ inner, part.lower policy location = .error inner →
        ∃ rejection, type.lower policy location = .error rejection) ∧
    ∀ policy otherPolicy : LoweringPolicy,
      (∃ rejection, type.lower policy location = .error rejection ∧
        type.lower otherPolicy location = .error rejection) ∨
      ∃ lowered other, type.lower policy location = .ok lowered ∧
        type.lower otherPolicy location = .ok other ∧
        ∀ leaf, lowered.withScalars leaf = other.withScalars leaf := by
  refine ⟨fun policy => exists_lower_eq_ok_iff, ?parts, ?policies⟩
  case parts =>
    intro policy part occurs inner rejects
    cases lowers : type.lower policy location with
    | error rejection => exact ⟨rejection, rfl⟩
    | ok lowered =>
      obtain ⟨_, lowersPart⟩ := occurs.lowers lowers
      cases rejects.symm.trans lowersPart
  case policies =>
    intro policy otherPolicy
    cases lowers : type.lower policy location with
    | error rejection =>
      -- The first offending node does not depend on the policy.
      exact .inl ⟨rejection, rfl, lower_eq_error_iff.mpr (lower_eq_error_iff.mp lowers)⟩
    | ok lowered =>
      obtain ⟨other, lowersOther⟩ :=
        exists_lower_eq_ok_iff.mpr (exists_lower_eq_ok_iff.mp ⟨lowered, lowers⟩)
      exact .inr ⟨lowered, other, rfl, lowersOther, fun leaf =>
        withScalars_lower lowers lowersOther⟩

-- The scalar does depend on the policy.
example :
    let counter := typedef "uint32_t" "" false (builtin .unsignedInt)
    counter.lower {} .unknown = .ok (.scalar ⟨.unsigned, .int, .unsized⟩) ∧
      counter.lower { allowCustomFixedSizeInt := true } .unknown =
        .ok (.scalar ⟨.unsigned, .exact, .bits32⟩) :=
  ⟨rfl, rfl⟩

end SourceType

end ForeignBindings
