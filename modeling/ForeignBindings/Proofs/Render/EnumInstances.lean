import ForeignBindings.Proofs.Layout.Alignment
import ForeignBindings.Proofs.Lowering.TypedefChains
import ForeignBindings.Proofs.Lowering.WellFormed
import ForeignBindings.Proofs.Render.References

/-!
# Instances of enums

The instance of an enum states a size and an alignment of its own: those of the integer type where
that is a scalar with a size, and four bytes otherwise. The search for layouts asks the integer type
instead, whatever it is. Where the integer type is a scalar with a size, both say the same, so that
a struct reserves for a field of the enum just the bytes that the instance reads and writes. An enum
of something without a size has an instance but no layout. The integer types that a unit can give
to an enum by a builtin, behind any typedefs, are scalars with a size, void excepted:
`enum_instances_match_layouts`.
-/

namespace ForeignBindings

namespace Scalar

/-- A standard typedef name stands for a scalar with a size. -/
theorem not_sizeless_of_standard (standard : Alias) : ¬ standard.scalar.Sizeless := by
  rw [← @scalar?_eq_none_iff .lp64]
  cases standard with
  | integer unsigned promise bits => cases promise <;> cases bits <;> nofun
  | _ => nofun

/-- Only void is a builtin with a scalar that has no size. -/
theorem not_sizeless_of_ofBuiltin? {kind : Builtin} {leaf : Scalar} (notVoid : kind ≠ .void)
    (found : ofBuiltin? kind = some leaf) : ¬ leaf.Sizeless := by
  rw [← @scalar?_eq_none_iff .lp64]
  cases kind with
  | void => exact absurd rfl notVoid
  | _ => cases found <;> nofun

end Scalar

namespace SourceType

variable {policy : LoweringPolicy} {location : Location}

/-- A typedef that names a scalar names one with a size. -/
theorem not_sizeless_of_namedScalar? {name : String} {inSystemHeader : Bool} {leaf : Scalar}
    (named : namedScalar? policy name inSystemHeader = some leaf) : ¬ leaf.Sizeless := by
  unfold namedScalar? Scalar.ofAlias? at named
  obtain ⟨-, isStandard⟩ := Option.ite_none_right_eq_some.mp named
  obtain ⟨standard, -, rfl⟩ := Option.map_eq_some_iff.mp isStandard
  exact Scalar.not_sizeless_of_standard standard

/-- A builtin other than void is lowered to a scalar with a size, behind any typedefs. -/
theorem exists_scalar_of_lower_behind {kind : Builtin} (notVoid : kind ≠ .void)
    (uses : List TypedefUse) {type : CType}
    (lowers : ((builtin kind).behind uses).lower policy location = .ok type) :
    ∃ leaf : Scalar, type = .scalar leaf ∧ ¬ leaf.Sizeless := by
  induction uses generalizing type with
  | nil =>
    change (builtin kind).lower policy location = .ok type at lowers
    rw [lower] at lowers
    cases found : Scalar.ofBuiltin? kind with
    | none =>
      rw [found] at lowers
      cases lowers
    | some leaf =>
      rw [found] at lowers
      cases lowers
      exact ⟨leaf, rfl, Scalar.not_sizeless_of_ofBuiltin? notVoid found⟩
  | cons use rest inductionHypothesis =>
    obtain ⟨named, lowersNamed, rfl⟩ := lower_typedef_eq_ok_iff.mp lowers
    obtain ⟨leaf, rfl, sized⟩ := inductionHypothesis lowersNamed
    rw [refineAlias_scalar]
    refine ⟨_, rfl, ?_⟩
    cases names : namedScalar? policy use.name use.inSystemHeader with
    | none => exact sized
    | some standard => exact not_sizeless_of_namedScalar? names

end SourceType

namespace DataModel

variable {model : DataModel} {tags : NameMap Tag}

/-- A scalar is laid out as its data model says. -/
theorem layout?_scalar (acyclic : NoEnumerationCycle tags) (leaf : Scalar) :
    model.layout? tags (.scalar leaf) = model.scalar? leaf := by
  refine Option.ext fun layout => ?_
  rw [layout?_eq_some_iff acyclic]
  exact ⟨fun | .scalar sized => sized, .scalar⟩

/-- An enum is laid out as its integer type. -/
theorem layout?_enumeration (acyclic : NoEnumerationCycle tags) {name : String}
    {underlying : CType} {values : List Enumerator}
    (defined : tags.find? name = some (.enumeration underlying values)) :
    model.layout? tags (.named name) = model.layout? tags underlying := by
  refine Option.ext fun layout => ?_
  rw [layout?_eq_some_iff acyclic, layout?_eq_some_iff acyclic]
  constructor
  · intro has
    cases has with
    | enumeration alsoDefined has =>
      cases defined.symm.trans alsoDefined
      exact has
    | «structure» alsoDefined all => cases defined.symm.trans alsoDefined
  · exact .enumeration defined

end DataModel

namespace Render

variable {model : DataModel} {tags : NameMap Tag}

/-- For an enum of a scalar with a size, the instance states the layout of the scalar. -/
theorem layout?_eq_enumLayout (acyclic : NoEnumerationCycle tags) {leaf : Scalar}
    (sized : ¬ leaf.Sizeless) :
    model.layout? tags (.scalar leaf) = some (enumLayout model (.scalar leaf)) := by
  rw [DataModel.layout?_scalar acyclic]
  cases found : model.scalar? leaf with
  | none => exact absurd (scalar?_eq_none_iff.mp found) sized
  | some layout => simp [enumLayout, CType.asScalar?, found]

/-- For an enum of something without a layout, the instance states four bytes. -/
theorem enumLayout_of_layout?_eq_none (acyclic : NoEnumerationCycle tags) {underlying : CType}
    (missing : model.layout? tags underlying = none) :
    enumLayout model underlying = .ofSize 4 := by
  cases underlying with
  | scalar leaf =>
    rw [DataModel.layout?_scalar acyclic] at missing
    simp [enumLayout, CType.asScalar?, missing]
  | pointer | named | function => rfl

end Render

/-- The instance that comes with a declaration states the layout of the values. -/
def HostDeclaration.InstanceStates (declaration : HostDeclaration) (layout : Layout) : Prop :=
  match declaration with
  | newtype _ _ _ _ _ members | record _ _ _ members =>
    ∃ others, members = some (Render.layoutLines layout ++ others)
  | emptyDatas _ | foreignImport .. => False

/-- Where instances are wanted, the declaration of an enum comes with one, which states a
layout. -/
theorem Tag.instanceStates_enumeration {options : RenderOptions}
    (wanted : options.storableInstances = true) (reference : Resolver) (tags : NameMap Tag)
    (name : String) (taken : Nat) (underlying : CType) (values : List Enumerator) :
    ((enumeration underlying values).declaration reference options tags name taken).InstanceStates
      (Render.enumLayout options.model underlying) := by
  simp [declaration, instanceMembers, wanted, HostDeclaration.InstanceStates]

namespace DataModel

variable (model : DataModel) (tags : NameMap Tag)

/-- Of a struct with the given fields, a placement reserves a place of a layout for the field of an
index: it is the natural placement of the layouts of the fields, which keeps them aligned and apart,
and the layout is the one of that index. -/
def Reserves (placement : Placement) (fields : List (Entity CType)) (index : Nat)
    (layout : Layout) : Prop :=
  ∃ layouts, fields.map (fun field => model.layout? tags field.type) = layouts.map some ∧
    placement = .natural layouts ∧ placement.Separates layouts ∧ layouts[index]? = some layout

variable {model tags}

/-- A struct reserves for each of its fields a place of the layout of its type. -/
theorem reserves_of_layout? (acyclic : NoEnumerationCycle tags) {name : String}
    {fields : List (Entity CType)} {placement : Placement} {index : Nat} {field : Entity CType}
    {layout : Layout} (defined : tags.find? name = some (.structure fields))
    (placed : model.placement? tags name = some placement)
    (isField : fields[index]? = some field)
    (laidOut : model.layout? tags field.type = some layout) :
    model.Reserves tags placement fields index layout := by
  cases (placement?_eq_some_iff acyclic).mp placed with
  | natural alsoDefined all =>
    cases defined.symm.trans alsoDefined
    obtain ⟨found, isLayout, has⟩ := all.of_getElem? isField
    cases laidOut.symm.trans ((layout?_eq_some_iff acyclic).mpr has)
    exact ⟨_, all.map_layout? acyclic, rfl, all.separates, isLayout⟩

end DataModel

/-- The integer type of every enum that a unit declares is a builtin other than void, behind any
typedefs. -/
def SourceUnit.DeclaresEnumsOfBuiltins (unit : SourceUnit) : Prop :=
  ∀ declaration ∈ unit.declarations, ∀ name integerType enumerators,
    declaration.DeclaresTag (.enumeration name integerType enumerators) →
      ∃ kind uses, kind ≠ .void ∧ integerType = (SourceType.builtin kind).behind uses

/-- The enums of a module are of scalars with a size, where the unit declares them so. -/
theorem SourceUnit.DeclaresEnumsOfBuiltins.exists_scalar {unit : SourceUnit}
    (builtins : unit.DeclaresEnumsOfBuiltins) {policy : LoweringPolicy} {queue : Queue}
    {tag : String} {underlying : CType} {values : List Enumerator}
    (defined : (unit.lower policy queue).1.tags.find? tag =
      some (.enumeration underlying values)) :
    ∃ leaf : Scalar, underlying = .scalar leaf ∧ ¬ leaf.Sizeless := by
  obtain ⟨declaration, member, -, binds⟩ :=
    ((find?_tags_lower_iff policy unit queue tag _).mp defined).exists_mem
  cases binds with
  | enumeration declares named lowers =>
    obtain ⟨kind, uses, notVoid, rfl⟩ := builtins declaration member _ _ _ declares
    exact SourceType.exists_scalar_of_lower_behind notVoid uses lowers

/-- The instance of an enum matches its layout. Where instances are wanted, the declaration of each
enum of a module comes with one, which states a layout. If the integer type is a scalar with a size,
it is the layout of the enum, and a struct reserves for each field of the enum a place of just this
layout. If the integer type has no layout, the enum has none either, and the instance states four
bytes. Every enum is of a scalar with a size in the module of a unit whose enums are declared of
builtins other than void, behind any typedefs. -/
theorem enum_instances_match_layouts (contents : Contents)
    (acyclic : NoEnumerationCycle contents.tags) (options : RenderOptions)
    (wanted : options.storableInstances = true) (name moduleName : String)
    (converters : ConverterSet) (file : Option NameConverter) (overrides : NameOverrides)
    (namespaces : NamespacePolicy) (earlier : List Resolver.Request) :
    let resolver :=
      ((Resolver.new moduleName converters file overrides namespaces).resolveAll earlier).2
    ∃ (front : List String) (definitions : List (String × HostDeclaration)) (behind : List String),
      (∀ queue, (contents.generate options name resolver queue).1.text =
        unlines (front ++ (definitions.flatMap fun definition => definition.2.lines) ++ behind)) ∧
      List.Forall₂ (fun entry definition => definition.1 = entry.1 ∧
        definition.2.Defines (resolver.hostName .type entry.1) entry.2)
        contents.tags.entries definitions ∧
      (∀ tag underlying values, contents.tags.find? tag = some (.enumeration underlying values) →
        ∃ declaration layout, (tag, declaration) ∈ definitions ∧
          declaration.InstanceStates layout ∧
          (∀ leaf : Scalar, underlying = .scalar leaf → ¬ leaf.Sizeless →
            options.model.layout? contents.tags (.named tag) = some layout ∧
            ∀ owner fields placement index field,
              contents.tags.find? owner = some (.structure fields) →
              options.model.placement? contents.tags owner = some placement →
              fields[index]? = some field → field.type = .named tag →
                options.model.Reserves contents.tags placement fields index layout) ∧
          (options.model.layout? contents.tags underlying = none →
            options.model.layout? contents.tags (.named tag) = none ∧ layout = .ofSize 4)) ∧
      ∀ policy (unit : SourceUnit) queue tag underlying values, unit.DeclaresEnumsOfBuiltins →
        (unit.lower policy queue).1.tags.find? tag = some (.enumeration underlying values) →
          ∃ leaf : Scalar, underlying = .scalar leaf ∧ ¬ leaf.Sizeless := by
  intro resolver
  have recalls : resolver.Recalls :=
    (Resolver.recalls_new moduleName converters file overrides namespaces).resolveAll earlier
  refine ⟨_, Render.tagDeclarations resolver options contents.tags 0 contents.tags.entries, _,
    fun queue => contents.text_generate options name recalls.answersLike queue,
    Render.forall₂_defines_tagDeclarations resolver options contents.tags 0 _, ?enumerations,
    fun _ _ _ _ _ _ builtins => builtins.exists_scalar⟩
  intro tag underlying values defined
  obtain ⟨taken, isDeclaration⟩ := Render.exists_mem_tagDeclarations resolver options
    contents.tags 0 (OrderedMap.mem_entries_iff.mpr defined)
  have sameLayout : options.model.layout? contents.tags (.named tag) =
      options.model.layout? contents.tags underlying :=
    DataModel.layout?_enumeration acyclic defined
  refine ⟨_, Render.enumLayout options.model underlying, isDeclaration,
    Tag.instanceStates_enumeration wanted .., ?sized, ?missing⟩
  case sized =>
    rintro leaf rfl sized
    rw [Render.layout?_eq_enumLayout acyclic sized] at sameLayout
    refine ⟨sameLayout, ?_⟩
    intro owner fields placement index field ownerDefined placed isField ofEnum
    exact DataModel.reserves_of_layout? acyclic ownerDefined placed isField (ofEnum ▸ sameLayout)
  case missing =>
    intro missing
    exact ⟨sameLayout.trans missing, Render.enumLayout_of_layout?_eq_none acyclic missing⟩

/-- An enum of void, which has no layout. -/
def voidContents : Contents where
  tags := .ofList [("state", .enumeration .void [])]

/-- The instance of an enum may state a layout where there is none: that of an enum of void does. -/
theorem enum_of_void_has_no_layout :
    ¬ ∀ (contents : Contents), NoEnumerationCycle contents.tags →
      ∀ (options : RenderOptions), options.storableInstances = true →
      ∀ (resolver : Resolver) (taken : Nat) (tag : String) (underlying : CType)
        (values : List Enumerator),
        contents.tags.find? tag = some (.enumeration underlying values) →
        ∃ layout, ((Tag.enumeration underlying values).declaration resolver options contents.tags
            tag taken).InstanceStates layout ∧
          options.model.layout? contents.tags (.named tag) = some layout := by
  intro always
  have acyclic : NoEnumerationCycle voidContents.tags := noEnumerationCycle_of_entries (by decide)
  have defined : voidContents.tags.find? "state" = some (.enumeration .void []) := by decide
  have resolver := Resolver.new "States" {} none ⟨.empty, .empty, .empty⟩ .flat
  obtain ⟨layout, -, laidOut⟩ := always voidContents acyclic { storableInstances := true } rfl
    resolver 0 "state" .void [] defined
  rw [DataModel.layout?_enumeration acyclic defined] at laidOut
  have missing : DataModel.lp64.layout? voidContents.tags (.scalar .void) = none :=
    DataModel.layout?_scalar acyclic .void
  cases laidOut.symm.trans missing

/-- An enum of bytes, and a struct of a number and such an enum. -/
def switchUnit : SourceUnit where
  declarations :=
    [{ name := "mode",
       kind := .enumeration ((SourceType.builtin .unsignedChar).behind [⟨"uint8_t", "", true⟩]) [] },
      { name := "switch",
        kind := .structure [⟨"count", .builtin .int, .unknown⟩, ⟨"mode", .tag "mode", .unknown⟩] }]

/-- What the unit of switches is lowered to. -/
def switchContents : Contents := (switchUnit.lower {} (.ofPolicy {})).1

theorem find?_mode_switchContents : switchContents.tags.find? "mode" =
    some (.enumeration (.scalar ⟨.unsigned, .exact, .bits8⟩) []) := by
  decide

theorem find?_switch_switchContents : switchContents.tags.find? "switch" =
    some (.structure [⟨"count", .scalar ⟨.signed, .int, .unsized⟩⟩, ⟨"mode", .named "mode"⟩]) := by
  decide

theorem noEnumerationCycle_switchContents : NoEnumerationCycle switchContents.tags :=
  noEnumerationCycle_of_entries (by decide)

theorem declaresEnumsOfBuiltins_switchUnit : switchUnit.DeclaresEnumsOfBuiltins := by
  intro declaration member name integerType enumerators declares
  simp only [switchUnit, List.mem_cons, List.not_mem_nil, or_false] at member
  rcases member with rfl | rfl
  · cases declares with
    | enumeration kind =>
      cases kind
      exact ⟨.unsignedChar, _, by decide, rfl⟩
    | «typedef» kind => cases kind
  · cases declares with
    | enumeration kind => cases kind
    | «typedef» kind => cases kind

/-- The instance of a mode states one byte, and a switch reserves one byte for its mode. -/
theorem mode_of_switch_matches_layout :
    NoEnumerationCycle switchContents.tags ∧ switchUnit.DeclaresEnumsOfBuiltins ∧
    DataModel.lp64.placement? switchContents.tags "switch" = some ⟨[0, 4], 8, 4⟩ ∧
    ∃ declaration : HostDeclaration, declaration.InstanceStates ⟨1, 1⟩ ∧
      DataModel.lp64.layout? switchContents.tags (.named "mode") = some ⟨1, 1⟩ ∧
      DataModel.lp64.Reserves switchContents.tags ⟨[0, 4], 8, 4⟩
        [⟨"count", .scalar ⟨.signed, .int, .unsized⟩⟩, ⟨"mode", .named "mode"⟩] 1 ⟨1, 1⟩ := by
  have acyclic := noEnumerationCycle_switchContents
  have mode : HasLayout .lp64 switchContents.tags (.named "mode") ⟨1, 1⟩ :=
    .enumeration find?_mode_switchContents (.scalar rfl)
  have placed : DataModel.lp64.placement? switchContents.tags "switch" = some ⟨[0, 4], 8, 4⟩ := by
    rw [DataModel.placement?_eq_some_iff acyclic]
    have count : HasLayout .lp64 switchContents.tags (.scalar ⟨.signed, .int, .unsized⟩) ⟨4, 4⟩ :=
      .scalar rfl
    exact .natural find?_switch_switchContents (.cons count (.cons mode .nil))
  obtain ⟨_, _, _, -, -, instances, lowered⟩ := enum_instances_match_layouts switchContents acyclic
    { storableInstances := true } rfl "Switches" "Switches" {} none ⟨.empty, .empty, .empty⟩ .flat []
  obtain ⟨leaf, isLeaf, sized⟩ := lowered {} switchUnit (.ofPolicy {}) "mode" _ _
    declaresEnumsOfBuiltins_switchUnit find?_mode_switchContents
  obtain ⟨declaration, layout, -, states, matching, -⟩ :=
    instances "mode" _ _ find?_mode_switchContents
  obtain ⟨laidOut, reserves⟩ := matching leaf isLeaf sized
  cases laidOut.symm.trans ((DataModel.layout?_eq_some_iff acyclic).mpr mode)
  exact ⟨acyclic, declaresEnumsOfBuiltins_switchUnit, placed, declaration, states, laidOut,
    reserves "switch" _ _ 1 _ find?_switch_switchContents placed rfl rfl⟩

end ForeignBindings
