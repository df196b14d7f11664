import ForeignBindings.Lowering.Unit
import Mathlib.Data.List.Forall2

/-!
# What a declaration binds

`Declaration.BindsEntity` and `Declaration.BindsTag` say what a declaration binds a name
to, apart from the gates that it has to pass: its types are lowered, part by part, and
a type without a name occurs in none of them. Only the integer type of an enum may
mention one. `Declaration.entity?_contribution_iff` and
`Declaration.tag?_contribution_iff` say that the contribution of a declaration is what
it binds behind the gates.
-/

namespace ForeignBindings

namespace Contribution

/-- The type that a contribution gives to an entity. -/
def entity? (wanted : String) : Contribution → Option CType
  | .entity name type => if wanted = name then some type else none
  | _ => none

/-- The definition that a contribution gives to a tag. -/
def tag? (wanted : String) : Contribution → Option Tag
  | .tag name definition => if wanted = name then some definition else none
  | _ => none

end Contribution

namespace Declaration

variable (policy : LoweringPolicy)

/-- A declaration passes the gates: it belongs to the interface and has external linkage, and
a function or variable has C linkage, or is treated as if it had. -/
structure Passes (declaration : Declaration) : Prop where
  isPublic : declaration.isPublic policy = true
  isExternal : declaration.linkage.externalFormal = true
  isC : declaration.isEntity = true →
    declaration.linkage.cLanguage = true ∨ policy.assumeExternC = true

/-- A parameter is lowered to one of its name; its values have to cross the language
boundary. -/
def LowersParameter (location : Location) (parameter : Member) (lowered : Entity CType) : Prop :=
  lowered.name = parameter.name ∧
    parameter.type.lowerValue policy (parameter.location.orElse location) = .ok lowered.type

/-- A field is lowered to one of its name; no type without a name occurs in it. -/
def LowersField (location : Location) (field : Member) (lowered : Entity CType) : Prop :=
  lowered.name = field.name ∧
    field.type.lower policy (field.location.orElse location) = .ok lowered.type ∧
    lowered.type.mentionsAnonymous = false

/-- The type that a variable or a function binds its name to. -/
inductive BindsEntity : Declaration → String → CType → Prop
  | variable {declaration type lowered} (kind : declaration.kind = .variable type)
      (lowers : type.lowerValue policy declaration.location = .ok lowered)
      (named : lowered.mentionsAnonymous = false) :
      BindsEntity declaration declaration.name lowered
  | function {declaration result parameters loweredResult loweredParameters}
      (kind : declaration.kind = .function result parameters)
      (lowersResult : result.lower policy declaration.location = .ok loweredResult)
      (lowersParameters : List.Forall₂ (LowersParameter policy declaration.location) parameters
        loweredParameters)
      (named : (CType.function loweredResult loweredParameters).mentionsAnonymous = false) :
      BindsEntity declaration declaration.name (.function loweredResult loweredParameters)

/-- A declaration declares an enum or a struct, itself or as the target of a typedef. -/
inductive DeclaresTag : Declaration → TypedefTarget → Prop
  | enumeration {declaration integerType enumerators}
      (kind : declaration.kind = .enumeration integerType enumerators) :
      DeclaresTag declaration (.enumeration declaration.name integerType enumerators)
  | structure {declaration fields} (kind : declaration.kind = .structure fields) :
      DeclaresTag declaration (.structure declaration.name fields)
  | typedef {declaration target} (kind : declaration.kind = .typedef target) :
      DeclaresTag declaration target

/-- The definition that an enum or a struct binds its tag to. The tag is its own name or,
where it has none, that of the declaration. -/
inductive BindsTag : Declaration → String → Tag → Prop
  | enumeration {declaration name integerType enumerators underlying}
      (declares : DeclaresTag declaration (.enumeration name integerType enumerators))
      (named : definedTag name declaration.name ≠ "")
      (lowers : integerType.lower policy declaration.location = .ok underlying) :
      BindsTag declaration (definedTag name declaration.name)
        (.enumeration underlying enumerators)
  | structure {declaration name fields lowered}
      (declares : DeclaresTag declaration (.structure name fields))
      (named : definedTag name declaration.name ≠ "")
      (lowers : List.Forall₂ (LowersField policy declaration.location) fields lowered) :
      BindsTag declaration (definedTag name declaration.name) (.structure lowered)

end Declaration

namespace Rejection

/-- An enclosing place changes no result. -/
@[simp] theorem enclose_eq_ok_iff {α : Type} {frame : Frame} {location : Location}
    {result : Except Rejection α} {value : α} :
    enclose frame location result = .ok value ↔ result = .ok value := by
  unfold enclose
  cases result <;> simp [Except.mapError]

end Rejection

/-- A computation succeeds when its first part does and the rest succeeds with what that
yields. -/
theorem except_bind_eq_ok_iff {ε α β : Type} {first : Except ε α} {rest : α → Except ε β}
    {value : β} :
    (first >>= rest) = .ok value ↔
      ∃ intermediate, first = .ok intermediate ∧ rest intermediate = .ok value := by
  cases first <;> simp [bind, Except.bind]

namespace Declaration

variable {policy : LoweringPolicy}

/-- The parameters of a function are lowered one by one. -/
theorem lowerParameters_eq_ok_iff {location : Location} {index : Nat} {parameters : List Member}
    {lowered : List (Entity CType)} :
    lowerParameters policy location index parameters = .ok lowered ↔
      List.Forall₂ (LowersParameter policy location) parameters lowered := by
  induction parameters generalizing index lowered with
  | nil =>
    cases lowered with
    | nil => exact ⟨fun _ => .nil, fun _ => rfl⟩
    | cons first rest =>
      constructor
      · intro lowers
        cases lowers
      · intro lowers
        cases lowers
  | cons parameter rest inductionHypothesis =>
    unfold lowerParameters
    simp only [except_bind_eq_ok_iff, Rejection.enclose_eq_ok_iff, inductionHypothesis]
    constructor
    · rintro ⟨type, lowersFirst, others, lowersRest, equal⟩
      cases equal
      exact .cons ⟨rfl, lowersFirst⟩ lowersRest
    · intro lowers
      cases lowers with
      | @cons _ first _ others lowersFirst lowersRest =>
        obtain ⟨sameName, lowersType⟩ := lowersFirst
        refine ⟨first.type, lowersType, others, lowersRest, ?_⟩
        rw [← sameName]
        rfl

/-- The fields of a struct are lowered one by one, unless one is rejected or mentions a type
without a name. -/
theorem lowerFields_eq_ok_some_iff {owner : String} {location : Location} {fields : List Member}
    {lowered : List (Entity CType)} :
    lowerFields policy owner location fields = .ok (some lowered) ↔
      List.Forall₂ (LowersField policy location) fields lowered := by
  induction fields generalizing lowered with
  | nil =>
    cases lowered with
    | nil => exact ⟨fun _ => .nil, fun _ => rfl⟩
    | cons first rest =>
      constructor
      · intro lowers
        cases lowers
      · intro lowers
        cases lowers
  | cons field rest inductionHypothesis =>
    unfold lowerFields
    simp only [except_bind_eq_ok_iff, Rejection.enclose_eq_ok_iff]
    constructor
    · rintro ⟨type, lowersFirst, continues⟩
      split at continues
      case isTrue => cases continues
      case isFalse named =>
        obtain ⟨others, lowersRest, equal⟩ := except_bind_eq_ok_iff.mp continues
        cases others with
        | none => cases equal
        | some others =>
          cases equal
          exact .cons ⟨rfl, lowersFirst, by simpa using named⟩
            (inductionHypothesis.mp lowersRest)
    · intro lowers
      cases lowers with
      | @cons _ first _ others lowersFirst lowersRest =>
        obtain ⟨sameName, lowersType, named⟩ := lowersFirst
        refine ⟨first.type, lowersType, ?_⟩
        rw [named]
        refine except_bind_eq_ok_iff.mpr ⟨some others, inductionHypothesis.mpr lowersRest, ?_⟩
        rw [← sameName]
        rfl

/-- The contribution of an entity binds its name unless a type without a name occurs. -/
theorem entity?_entityOf_iff {name wanted : String} {lowered type : CType} :
    (entityOf name lowered).entity? wanted = some type ↔
      name = wanted ∧ lowered = type ∧ lowered.mentionsAnonymous = false := by
  unfold entityOf
  cases named : lowered.mentionsAnonymous with
  | true => simp [Contribution.entity?]
  | false => simp [Contribution.entity?, eq_comm]

/-- A declaration passes the gates exactly when it is lowered; otherwise it binds nothing. -/
theorem contribution_cases (policy : LoweringPolicy) (declaration : Declaration) :
    (declaration.Passes policy ∧
      declaration.contribution policy = declaration.lowered policy) ∨
    (¬ declaration.Passes policy ∧
      (declaration.contribution policy = .nothing ∨
        declaration.contribution policy = .report [declaration.externalLinkageWarning] ∨
        declaration.contribution policy = .report [declaration.cLinkageWarning])) := by
  unfold contribution
  by_cases isPublic : declaration.isPublic policy = true
  · by_cases isExternal : declaration.linkage.externalFormal = true
    · by_cases isC : declaration.isEntity = true →
        declaration.linkage.cLanguage = true ∨ policy.assumeExternC = true
      · refine Or.inl ⟨⟨isPublic, isExternal, isC⟩, ?_⟩
        cases entity : declaration.isEntity with
        | false => simp [isPublic, isExternal]
        | true =>
          have linked := isC entity
          rw [← Bool.or_eq_true] at linked
          simp [isPublic, isExternal, linked]
      · refine Or.inr ⟨fun passes => isC passes.isC, ?_⟩
        simp only [Classical.not_imp, not_or, Bool.not_eq_true] at isC
        obtain ⟨entity, notC, notAssumed⟩ := isC
        cases policy.warnNoCLinkage <;> simp [isPublic, isExternal, entity, notC, notAssumed]
    · refine Or.inr ⟨fun passes => isExternal passes.isExternal, ?_⟩
      cases policy.warnNoExternalFormalLinkage <;> simp [isPublic, isExternal]
  · exact Or.inr ⟨fun passes => isPublic passes.isPublic, by simp [isPublic]⟩

/-- What is lowered to a type binds a name to it, unless a type without a name occurs. -/
theorem entity?_enclosed_iff {frame : Frame} {location : Location} {name wanted : String}
    {result : Except Rejection CType} {type : CType} :
    Contribution.entity? wanted (match Rejection.enclose frame location result with
      | .ok type => entityOf name type
      | .error rejection => .rejected rejection) = some type ↔
      name = wanted ∧ result = .ok type ∧ type.mentionsAnonymous = false := by
  cases result with
  | error rejection =>
    simp [Rejection.enclose, Except.mapError, Contribution.rejected, Contribution.entity?]
  | ok lowered =>
    simp only [Rejection.enclose, Except.mapError, entity?_entityOf_iff, Except.ok.injEq]
    constructor
    · rintro ⟨same, rfl, named⟩
      exact ⟨same, rfl, named⟩
    · rintro ⟨same, rfl, named⟩
      exact ⟨same, rfl, named⟩

/-- A variable binds its name to its type. -/
theorem entity?_variableContribution_iff {name wanted : String} {location : Location}
    {source : SourceType} {type : CType} :
    (variableContribution policy name location source).entity? wanted = some type ↔
      name = wanted ∧ source.lowerValue policy location = .ok type ∧
        type.mentionsAnonymous = false :=
  entity?_enclosed_iff

/-- A function binds its name to its signature. -/
theorem entity?_functionContribution_iff {name wanted : String} {location : Location}
    {result : SourceType} {parameters : List Member} {type : CType} :
    (functionContribution policy name location result parameters).entity? wanted = some type ↔
      name = wanted ∧ lowerSignature policy location result parameters = .ok type ∧
        type.mentionsAnonymous = false :=
  entity?_enclosed_iff

/-- The signature of a function is lowered part by part. -/
theorem lowerSignature_eq_ok_iff {location : Location} {result : SourceType}
    {parameters : List Member} {type : CType} :
    lowerSignature policy location result parameters = .ok type ↔
      ∃ loweredResult loweredParameters,
        result.lower policy location = .ok loweredResult ∧
        List.Forall₂ (LowersParameter policy location) parameters loweredParameters ∧
        type = .function loweredResult loweredParameters := by
  unfold lowerSignature
  simp only [except_bind_eq_ok_iff, lowerParameters_eq_ok_iff]
  constructor
  · rintro ⟨loweredResult, lowersResult, loweredParameters, lowersParameters, equal⟩
    exact ⟨loweredResult, loweredParameters, lowersResult, lowersParameters,
      (Except.ok.inj equal).symm⟩
  · rintro ⟨loweredResult, loweredParameters, lowersResult, lowersParameters, rfl⟩
    exact ⟨loweredResult, lowersResult, loweredParameters, lowersParameters, rfl⟩

/-- An enum binds its tag, unless it has none, to its integer type and its enumerators. -/
theorem tag?_enumerationContribution_iff {name wanted : String} {location : Location}
    {integerType : SourceType} {enumerators : List Enumerator} {definition : Tag} :
    (enumerationContribution policy name location integerType enumerators).tag? wanted =
        some definition ↔
      name ≠ "" ∧ name = wanted ∧ ∃ underlying,
        integerType.lower policy location = .ok underlying ∧
          definition = .enumeration underlying enumerators := by
  unfold enumerationContribution
  by_cases anonymous : name = ""
  · simp [anonymous, Contribution.tag?]
  · rw [if_neg anonymous]
    cases integerType.lower policy location with
    | error rejection =>
      simp [Rejection.enclose, Except.mapError, Contribution.rejected, Contribution.tag?]
    | ok underlying =>
      simp [Rejection.enclose, Except.mapError, Contribution.tag?, anonymous, eq_comm]

/-- A struct binds its tag, unless it has none, to its fields. -/
theorem tag?_structureContribution_iff {name wanted : String} {location : Location}
    {fields : List Member} {definition : Tag} :
    (structureContribution policy name location fields).tag? wanted = some definition ↔
      name ≠ "" ∧ name = wanted ∧ ∃ lowered,
        List.Forall₂ (LowersField policy location) fields lowered ∧
          definition = .structure lowered := by
  unfold structureContribution
  by_cases anonymous : name = ""
  · simp [anonymous, Contribution.tag?]
  · rw [if_neg anonymous]
    simp only [← @lowerFields_eq_ok_some_iff policy name]
    cases lowerFields policy name location fields with
    | error rejection => simp [Contribution.rejected, Contribution.tag?]
    | ok lowered =>
      cases lowered with
      | none => simp [Contribution.tag?]
      | some lowered => simp [Contribution.tag?, anonymous, eq_comm]

theorem entity?_enumerationContribution (name wanted : String) (location : Location)
    (integerType : SourceType) (enumerators : List Enumerator) :
    (enumerationContribution policy name location integerType enumerators).entity? wanted =
      none := by
  unfold enumerationContribution
  split
  · rfl
  · split <;> rfl

theorem entity?_structureContribution (name wanted : String) (location : Location)
    (fields : List Member) :
    (structureContribution policy name location fields).entity? wanted = none := by
  unfold structureContribution
  split
  · rfl
  · split <;> rfl

theorem entity?_typedefContribution (name wanted : String) (location : Location)
    (target : TypedefTarget) :
    (typedefContribution policy name location target).entity? wanted = none := by
  cases target with
  | enumeration => exact entity?_enumerationContribution ..
  | «structure» => exact entity?_structureContribution ..
  | type => rfl

/-- What is lowered to a type binds no tag. -/
theorem tag?_enclosed {frame : Frame} {location : Location} {name wanted : String}
    {result : Except Rejection CType} :
    Contribution.tag? wanted (match Rejection.enclose frame location result with
      | .ok type => entityOf name type
      | .error rejection => .rejected rejection) = none := by
  split
  · unfold entityOf
    split <;> rfl
  · rfl

/-- What is lowered is what the declaration binds a function or a variable to. -/
theorem entity?_lowered_iff {declaration : Declaration} {name : String} {type : CType} :
    (declaration.lowered policy).entity? name = some type ↔
      declaration.BindsEntity policy name type := by
  constructor
  · intro found
    unfold lowered at found
    cases kind : declaration.kind with
    | «variable» source =>
      rw [kind] at found
      obtain ⟨rfl, lowers, named⟩ := entity?_variableContribution_iff.mp found
      exact .variable kind lowers named
    | function result parameters =>
      rw [kind] at found
      obtain ⟨rfl, lowers, named⟩ := entity?_functionContribution_iff.mp found
      obtain ⟨loweredResult, loweredParameters, lowersResult, lowersParameters, rfl⟩ :=
        lowerSignature_eq_ok_iff.mp lowers
      exact .function kind lowersResult lowersParameters named
    | enumeration integerType enumerators =>
      rw [kind] at found
      simp [entity?_enumerationContribution] at found
    | «structure» fields =>
      rw [kind] at found
      simp [entity?_structureContribution] at found
    | typedef target =>
      rw [kind] at found
      simp [entity?_typedefContribution] at found
  · intro binds
    unfold lowered
    cases binds with
    | «variable» kind lowers named =>
      rw [kind]
      exact entity?_variableContribution_iff.mpr ⟨rfl, lowers, named⟩
    | function kind lowersResult lowersParameters named =>
      rw [kind]
      exact entity?_functionContribution_iff.mpr ⟨rfl,
        lowerSignature_eq_ok_iff.mpr ⟨_, _, lowersResult, lowersParameters, rfl⟩, named⟩

/-- A tag that is declared is lowered as the target of a typedef of the declaration's name. -/
theorem DeclaresTag.lowered_eq {declaration : Declaration} {target : TypedefTarget}
    (declares : declaration.DeclaresTag target) :
    declaration.lowered policy =
      typedefContribution policy declaration.name declaration.location target := by
  unfold lowered
  cases declares with
  | enumeration kind =>
    rw [kind]
    simp [typedefContribution, definedTag]
  | «structure» kind =>
    rw [kind]
    simp [typedefContribution, definedTag]
  | typedef kind => rw [kind]

/-- What is lowered is what the declaration binds a tag to. -/
theorem tag?_lowered_iff {declaration : Declaration} {name : String} {definition : Tag} :
    (declaration.lowered policy).tag? name = some definition ↔
      declaration.BindsTag policy name definition := by
  constructor
  · intro found
    have declared : ∃ target, declaration.DeclaresTag target := by
      unfold lowered at found
      cases kind : declaration.kind with
      | «variable» source =>
        rw [kind] at found
        exact absurd (tag?_enclosed.symm.trans found) nofun
      | function result parameters =>
        rw [kind] at found
        exact absurd (tag?_enclosed.symm.trans found) nofun
      | enumeration integerType enumerators => exact ⟨_, .enumeration kind⟩
      | «structure» fields => exact ⟨_, .structure kind⟩
      | typedef target => exact ⟨_, .typedef kind⟩
    obtain ⟨target, declares⟩ := declared
    rw [declares.lowered_eq] at found
    cases target with
    | enumeration tagName integerType enumerators =>
      obtain ⟨named, rfl, underlying, lowers, rfl⟩ := tag?_enumerationContribution_iff.mp found
      exact .enumeration declares named lowers
    | «structure» tagName fields =>
      obtain ⟨named, rfl, lowered, lowers, rfl⟩ := tag?_structureContribution_iff.mp found
      exact .structure declares named lowers
    | type type => simp [typedefContribution, Contribution.tag?] at found
  · intro binds
    cases binds with
    | enumeration declares named lowers =>
      rw [declares.lowered_eq]
      exact tag?_enumerationContribution_iff.mpr ⟨named, rfl, _, lowers, rfl⟩
    | «structure» declares named lowers =>
      rw [declares.lowered_eq]
      exact tag?_structureContribution_iff.mpr ⟨named, rfl, _, lowers, rfl⟩

/-- The contribution of a declaration is what it binds a function or a variable to, behind
the gates. -/
theorem entity?_contribution_iff {declaration : Declaration} {name : String} {type : CType} :
    (declaration.contribution policy).entity? name = some type ↔
      declaration.Passes policy ∧ declaration.BindsEntity policy name type := by
  rcases declaration.contribution_cases policy with ⟨passes, same⟩ | ⟨fails, filtered⟩
  · rw [same, entity?_lowered_iff]
    exact ⟨fun binds => ⟨passes, binds⟩, And.right⟩
  · rcases filtered with same | same | same <;> simp [same, Contribution.entity?, fails]

/-- The contribution of a declaration is what it binds a tag to, behind the gates. -/
theorem tag?_contribution_iff {declaration : Declaration} {name : String} {definition : Tag} :
    (declaration.contribution policy).tag? name = some definition ↔
      declaration.Passes policy ∧ declaration.BindsTag policy name definition := by
  rcases declaration.contribution_cases policy with ⟨passes, same⟩ | ⟨fails, filtered⟩
  · rw [same, tag?_lowered_iff]
    exact ⟨fun binds => ⟨passes, binds⟩, And.right⟩
  · rcases filtered with same | same | same <;> simp [same, Contribution.tag?, fails]

end Declaration

end ForeignBindings
