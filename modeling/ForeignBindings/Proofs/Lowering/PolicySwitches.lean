import ForeignBindings.Proofs.Diagnostic.Agreement
import ForeignBindings.Proofs.Lowering.Shape
import ForeignBindings.Proofs.Lowering.WellFormed

/-!
# What the switches of a policy change

The switches of the warnings change nothing but the warnings about a linkage. The switches that
admit declarations admit more of them: the first declaration of a name may then be another one, so
that the name can get another type, but no name is lost. Which standard names are followed decides
about scalars only, and so about no name: `SourceUnit.lower_switches`.
-/

namespace ForeignBindings

namespace LoweringPolicy

/-- Two policies differ in the switches of the warnings at most. -/
structure AgreesButWarnings (policy other : LoweringPolicy) : Prop where
  allowCustomFixedSizeInt : policy.allowCustomFixedSizeInt = other.allowCustomFixedSizeInt
  assumeExternC : policy.assumeExternC = other.assumeExternC
  headerGroup : policy.headerGroup = other.headerGroup

/-- Whatever a policy admits, another one does: declarations from included headers, and functions
and variables without C linkage. The other switches may stand as they like. -/
structure WidenedBy (policy other : LoweringPolicy) : Prop where
  headerGroup : policy.headerGroup = true → other.headerGroup = true
  assumeExternC : policy.assumeExternC = true → other.assumeExternC = true

end LoweringPolicy

/-- A diagnostic says that a declaration lacks a linkage. -/
def Diagnostic.isAboutLinkage (diagnostic : Diagnostic) : Bool :=
  diagnostic.code == .noExternalLinkage || diagnostic.code == .noCLinkage

namespace SourceType

variable {policy other : LoweringPolicy}

/-- Types are lowered alike where the same standard names are followed. -/
theorem lower_congr (same : policy.allowCustomFixedSizeInt = other.allowCustomFixedSizeInt)
    (location : Location) (type : SourceType) :
    type.lower policy location = type.lower other location := by
  induction type using SourceType.induction with
  | pointer pointee inductionHypothesis =>
    rw [lower, lower, inductionHypothesis]
  | «typedef» name qualifiedName inSystemHeader underlying inductionHypothesis =>
    have refined : refineAlias policy name qualifiedName inSystemHeader =
        refineAlias other name qualifiedName inSystemHeader := by
      funext type
      cases type <;> simp [refineAlias, same]
    rw [lower, lower, inductionHypothesis, refined]
  | prototype convention result parameters ofResult ofParameters =>
    have sameParameters (index : Nat) :
        lowerParameters policy location index parameters =
          lowerParameters other location index parameters := by
      induction parameters generalizing index with
      | nil => rfl
      | cons parameter rest inductionHypothesis =>
        obtain ⟨ofFirst, ofRest⟩ := List.forall_mem_cons.mp ofParameters
        rw [lowerParameters, lowerParameters, ofFirst, inductionHypothesis ofRest]
    rw [lower, lower, ofResult, sameParameters]
  | _ => rfl

/-- Values are lowered alike where the same standard names are followed. -/
theorem lowerValue_congr (same : policy.allowCustomFixedSizeInt = other.allowCustomFixedSizeInt)
    (location : Location) (type : SourceType) :
    type.lowerValue policy location = type.lowerValue other location := by
  unfold lowerValue
  rw [lower_congr same]

/-- Under another policy a type is lowered to one that differs in scalars at most. -/
theorem exists_lower_alike {location : Location} {source : SourceType} {type : CType}
    (lowers : source.lower policy location = .ok type) (other : LoweringPolicy) (leaf : Scalar) :
    ∃ otherType, source.lower other location = .ok otherType ∧
      type.withScalars leaf = otherType.withScalars leaf := by
  obtain ⟨otherType, lowersOther⟩ :=
    exists_lower_eq_ok_iff.mpr (exists_lower_eq_ok_iff.mp ⟨type, lowers⟩)
  exact ⟨otherType, lowersOther, withScalars_lower lowers lowersOther⟩

/-- Under another policy a value is lowered to a type that differs in scalars at most. -/
theorem exists_lowerValue_alike {location : Location} {source : SourceType} {type : CType}
    (lowers : source.lowerValue policy location = .ok type) (other : LoweringPolicy)
    (leaf : Scalar) :
    ∃ otherType, source.lowerValue other location = .ok otherType ∧
      type.withScalars leaf = otherType.withScalars leaf := by
  unfold lowerValue at lowers
  obtain ⟨found, lowersType, checked⟩ := except_bind_eq_ok_iff.mp lowers
  split at checked
  case isFalse => cases checked
  case isTrue marshallable =>
    cases checked
    obtain ⟨otherType, lowersOther, alike⟩ := exists_lower_alike lowersType other leaf
    refine ⟨otherType, except_bind_eq_ok_iff.mpr ⟨otherType, lowersOther, ?_⟩, alike⟩
    rw [← CType.isMarshallable_eq_of_withScalars alike, if_pos marshallable]
    rfl

end SourceType

namespace Declaration

section SameStandardNames

variable {policy other : LoweringPolicy}
  (same : policy.allowCustomFixedSizeInt = other.allowCustomFixedSizeInt)
include same

/-- Parameters are lowered alike where the same standard names are followed. -/
theorem lowerParameters_congr (location : Location) (index : Nat) (parameters : List Member) :
    lowerParameters policy location index parameters =
      lowerParameters other location index parameters := by
  induction parameters generalizing index with
  | nil => rfl
  | cons parameter rest inductionHypothesis =>
    simp only [lowerParameters, SourceType.lowerValue_congr same, inductionHypothesis]

/-- Fields are lowered alike where the same standard names are followed. -/
theorem lowerFields_congr (owner : String) (location : Location) (fields : List Member) :
    lowerFields policy owner location fields = lowerFields other owner location fields := by
  induction fields with
  | nil => rfl
  | cons field rest inductionHypothesis =>
    simp only [lowerFields, SourceType.lower_congr same, inductionHypothesis]

/-- A declaration is lowered alike where the same standard names are followed. -/
theorem lowered_congr (declaration : Declaration) :
    declaration.lowered policy = declaration.lowered other := by
  simp only [lowered, variableContribution, functionContribution, lowerSignature,
    enumerationContribution, structureContribution, SourceType.lower_congr same,
    SourceType.lowerValue_congr same, lowerParameters_congr same, lowerFields_congr same]
  cases declaration.kind with
  | typedef target =>
    cases target <;> simp only [typedefContribution, enumerationContribution,
      structureContribution, SourceType.lower_congr same, lowerFields_congr same]
  | _ => rfl

end SameStandardNames

variable {policy other : LoweringPolicy} {declaration : Declaration}

/-- A declaration that passes the gates passes those of a policy that admits more. -/
theorem Passes.widened (passes : declaration.Passes policy) (widened : policy.WidenedBy other) :
    declaration.Passes other where
  isPublic := by
    have shown := passes.isPublic
    unfold Declaration.isPublic at shown ⊢
    cases origin : declaration.origin with
    | mainFile => rfl
    | header =>
      rw [origin] at shown
      exact widened.headerGroup shown
    | systemHeader =>
      rw [origin] at shown
      exact shown
  isExternal := passes.isExternal
  isC := fun isEntity => (passes.isC isEntity).imp_right widened.assumeExternC

/-- Behind the gates the contribution is what is lowered. -/
theorem contribution_of_passes (passes : declaration.Passes policy) :
    declaration.contribution policy = declaration.lowered policy := by
  rcases declaration.contribution_cases policy with ⟨-, same⟩ | ⟨fails, -⟩
  · exact same
  · exact absurd passes fails

/-- Before the gates a declaration reports nothing but the lack of a linkage. -/
theorem isAboutLinkage_of_not_passes (fails : ¬ declaration.Passes policy) :
    ∀ diagnostic ∈ (declaration.contribution policy).diagnostics,
      diagnostic.isAboutLinkage = true := by
  rcases declaration.contribution_cases policy with ⟨passes, -⟩ | ⟨-, same | same | same⟩
  · exact absurd passes fails
  · rw [same]
    exact List.forall_mem_nil _
  · rw [same]
    refine List.forall_mem_singleton.mpr ?_
    simp [Diagnostic.isAboutLinkage, externalLinkageWarning, Diagnostic.warning]
  · rw [same]
    refine List.forall_mem_singleton.mpr ?_
    simp [Diagnostic.isAboutLinkage, cLinkageWarning, Diagnostic.warning, Diagnostic.withSuggestion]

end Declaration

namespace Rejection

/-- The report of a rejection as a block. -/
def block (rejection : Rejection) : Block where
  head := rejection.warning
  notes := rejection.context.map contextNote
  isNote_head := by simp [Diagnostic.isNote, severity_warning]
  isNote_notes := by
    intro note member
    obtain ⟨place, -, rfl⟩ := List.mem_map.mp member
    simp [Diagnostic.isNote, severity_contextNote]

/-- A rejection is not for lack of a linkage. -/
theorem isAboutLinkage_warning (rejection : Rejection) :
    rejection.warning.isAboutLinkage = false := by
  cases wrong : rejection.error <;>
    simp [Diagnostic.isAboutLinkage, warning, Diagnostic.warning, wrong, LoweringError.code]

end Rejection

namespace LoweringPolicy.AgreesButWarnings

variable {policy other : LoweringPolicy} (agrees : policy.AgreesButWarnings other)
include agrees

/-- The warnings open no gate. -/
theorem passes_iff (declaration : Declaration) :
    declaration.Passes policy ↔ declaration.Passes other := by
  have widened : policy.WidenedBy other :=
    ⟨agrees.headerGroup.symm.trans, agrees.assumeExternC.symm.trans⟩
  have narrowed : other.WidenedBy policy :=
    ⟨agrees.headerGroup.trans, agrees.assumeExternC.trans⟩
  exact ⟨fun passes => passes.widened widened, fun passes => passes.widened narrowed⟩

/-- Behind the gates the warnings have no part in a contribution. -/
theorem contribution_eq {declaration : Declaration} (passes : declaration.Passes policy) :
    declaration.contribution policy = declaration.contribution other := by
  rw [Declaration.contribution_of_passes passes,
    Declaration.contribution_of_passes ((agrees.passes_iff declaration).mp passes),
    Declaration.lowered_congr agrees.allowCustomFixedSizeInt]

/-- The warnings have no part in what a declaration adds. -/
theorem addTo_contribution (declaration : Declaration) (contents : Contents) :
    (declaration.contribution policy).addTo contents =
      (declaration.contribution other).addTo contents := by
  by_cases passes : declaration.Passes policy
  · rw [agrees.contribution_eq passes]
  · have fails : ¬ declaration.Passes other := mt (agrees.passes_iff declaration).mpr passes
    rw [Declaration.addTo_contribution_of_not_passes passes,
      Declaration.addTo_contribution_of_not_passes fails]

/-- Queues that agree but for the linkages still do so after the reports of a declaration. -/
theorem agreesBut_extend {queue otherQueue : Queue}
    (alike : queue.AgreesBut Diagnostic.isAboutLinkage otherQueue) (declaration : Declaration) :
    (queue.extend (declaration.contribution policy).diagnostics).AgreesBut Diagnostic.isAboutLinkage
      (otherQueue.extend (declaration.contribution other).diagnostics) := by
  by_cases passes : declaration.Passes policy
  · rw [← agrees.contribution_eq passes, Declaration.contribution_of_passes passes]
    rcases declaration.silent_or_rejected policy with silent | ⟨rejection, rejects⟩
    · rw [silent]
      exact alike
    · rw [rejects]
      exact alike.extend_block rejection.block rejection.isAboutLinkage_warning
  · have fails : ¬ declaration.Passes other := mt (agrees.passes_iff declaration).mpr passes
    have left := alike.extend_left (Declaration.isAboutLinkage_of_not_passes passes)
    exact (left.symm.extend_left (Declaration.isAboutLinkage_of_not_passes fails)).symm

/-- Queues that agree but for the linkages still do so after the reports of declarations. -/
theorem agreesBut_extend_all {queue otherQueue : Queue}
    (alike : queue.AgreesBut Diagnostic.isAboutLinkage otherQueue)
    (declarations : List Declaration) :
    (queue.extend (declarations.flatMap fun declaration =>
        (declaration.contribution policy).diagnostics)).AgreesBut Diagnostic.isAboutLinkage
      (otherQueue.extend (declarations.flatMap fun declaration =>
        (declaration.contribution other).diagnostics)) := by
  induction declarations generalizing queue otherQueue with
  | nil => exact alike
  | cons declaration rest inductionHypothesis =>
    have later := inductionHypothesis (agrees.agreesBut_extend alike declaration)
    unfold Queue.extend at later ⊢
    rw [List.flatMap_cons, List.flatMap_cons, List.foldl_append, List.foldl_append]
    exact later

end LoweringPolicy.AgreesButWarnings

namespace Declaration

variable {policy : LoweringPolicy} {declaration : Declaration} {location : Location}

/-- Under another policy parameters are lowered to ones that differ in scalars at most. -/
theorem exists_lowersParameters_alike {parameters : List Member} {lowered : List (Entity CType)}
    (lowers : List.Forall₂ (LowersParameter policy location) parameters lowered)
    (other : LoweringPolicy) (leaf : Scalar) :
    ∃ otherLowered, List.Forall₂ (LowersParameter other location) parameters otherLowered ∧
      CType.withScalarsAll leaf lowered = CType.withScalarsAll leaf otherLowered := by
  induction lowers with
  | nil => exact ⟨[], .nil, rfl⟩
  | cons first _ inductionHypothesis =>
    obtain ⟨sameName, lowersType⟩ := first
    obtain ⟨type, lowersOther, alike⟩ :=
      SourceType.exists_lowerValue_alike lowersType other leaf
    obtain ⟨rest, lowersRest, restAlike⟩ := inductionHypothesis
    refine ⟨⟨_, type⟩ :: rest, .cons ⟨sameName, lowersOther⟩ lowersRest, ?_⟩
    unfold CType.withScalarsAll
    rw [alike, restAlike]

/-- Under another policy a field is lowered, and can be written. -/
theorem LowersField.exists_of_policy {field : Member} {lowered : Entity CType}
    (lowers : LowersField policy location field lowered) (other : LoweringPolicy) :
    ∃ otherLowered, LowersField other location field otherLowered := by
  obtain ⟨sameName, lowersType, named⟩ := lowers
  obtain ⟨type, lowersOther, alike⟩ := SourceType.exists_lower_alike lowersType other .void
  exact ⟨⟨lowered.name, type⟩, sameName, lowersOther,
    CType.mentionsAnonymous_eq_of_withScalars alike ▸ named⟩

/-- Under another policy fields are lowered, and can be written. -/
theorem exists_lowersFields {fields : List Member} {lowered : List (Entity CType)}
    (lowers : List.Forall₂ (LowersField policy location) fields lowered)
    (other : LoweringPolicy) :
    ∃ otherLowered, List.Forall₂ (LowersField other location) fields otherLowered := by
  induction lowers with
  | nil => exact ⟨[], .nil⟩
  | cons first _ inductionHypothesis =>
    obtain ⟨lowered, lowersFirst⟩ := first.exists_of_policy other
    obtain ⟨rest, lowersRest⟩ := inductionHypothesis
    exact ⟨lowered :: rest, .cons lowersFirst lowersRest⟩

/-- A name that a declaration binds to a type it binds to one under every policy. -/
theorem BindsEntity.exists_of_policy {name : String} {type : CType}
    (binds : declaration.BindsEntity policy name type) (other : LoweringPolicy) :
    ∃ otherType, declaration.BindsEntity other name otherType := by
  cases binds with
  | «variable» kind lowers named =>
    obtain ⟨otherType, lowersOther, alike⟩ := SourceType.exists_lowerValue_alike lowers other .void
    exact ⟨otherType, .variable kind lowersOther
      (CType.mentionsAnonymous_eq_of_withScalars alike ▸ named)⟩
  | @function _ _ loweredResult loweredParameters kind lowersResult lowersParameters named =>
    obtain ⟨otherResult, lowersOtherResult, resultAlike⟩ :=
      SourceType.exists_lower_alike lowersResult other .void
    obtain ⟨otherParameters, lowersOtherParameters, parametersAlike⟩ :=
      exists_lowersParameters_alike lowersParameters other .void
    have alike : (CType.function loweredResult loweredParameters).withScalars .void =
        (CType.function otherResult otherParameters).withScalars .void := by
      unfold CType.withScalars
      rw [resultAlike, parametersAlike]
    exact ⟨_, .function kind lowersOtherResult lowersOtherParameters
      (CType.mentionsAnonymous_eq_of_withScalars alike ▸ named)⟩

/-- A tag that a declaration binds to a definition it binds to one under every policy. -/
theorem BindsTag.exists_of_policy {name : String} {definition : Tag}
    (binds : declaration.BindsTag policy name definition) (other : LoweringPolicy) :
    ∃ otherDefinition, declaration.BindsTag other name otherDefinition := by
  cases binds with
  | enumeration declares named lowers =>
    obtain ⟨_, lowersOther, -⟩ := SourceType.exists_lower_alike lowers other .void
    exact ⟨_, .enumeration declares named lowersOther⟩
  | «structure» declares named lowers =>
    obtain ⟨_, lowersOther⟩ := exists_lowersFields lowers other
    exact ⟨_, .structure declares named lowersOther⟩

end Declaration

namespace SourceUnit

/-- The switches of a policy act as they are documented. Those of the warnings have no part in the
module, and in a queue without a limit they change nothing but which warnings about a linkage it
holds. Those that admit more declarations keep every entity and every tag, and so does the switch of
the standard names. -/
theorem lower_switches (unit : SourceUnit) (policy other : LoweringPolicy) :
    (policy.AgreesButWarnings other →
      (∀ queue otherQueue, (unit.lower policy queue).1 = (unit.lower other otherQueue).1) ∧
      ∀ queue : Queue, queue.policy.limit = 0 →
        (unit.lower policy queue).2.toList.filter (!Diagnostic.isAboutLinkage ·) =
          (unit.lower other queue).2.toList.filter (!Diagnostic.isAboutLinkage ·)) ∧
    (policy.WidenedBy other → ∀ queue otherQueue,
      (unit.lower policy queue).1.entities.keys ⊆ (unit.lower other otherQueue).1.entities.keys ∧
      (unit.lower policy queue).1.tags.keys ⊆ (unit.lower other otherQueue).1.tags.keys) := by
  refine ⟨fun agrees => ⟨fun queue otherQueue => ?contents, fun queue unlimited => ?reports⟩,
    fun widened queue otherQueue => ⟨fun name isEntity => ?entities, fun name isTag => ?tags⟩⟩
  case contents =>
    unfold lower contributions
    simp only [List.foldl_map, agrees.addTo_contribution]
  case reports =>
    have alike := agrees.agreesBut_extend_all (.refl _ unlimited) unit.declarations
    unfold lower contributions
    simp only [List.flatMap_map]
    exact alike.held
  case entities =>
    obtain ⟨type, bound⟩ := OrderedMap.mem_keys_iff.mp isEntity
    obtain ⟨declaration, member, passes, binds⟩ :=
      ((find?_entities_lower_iff policy unit queue name type).mp bound).exists_mem
    obtain ⟨otherType, bindsOther⟩ := binds.exists_of_policy other
    exact mem_keys_entities_lower other unit otherQueue member (passes.widened widened) bindsOther
  case tags =>
    obtain ⟨definition, bound⟩ := OrderedMap.mem_keys_iff.mp isTag
    obtain ⟨declaration, member, passes, binds⟩ :=
      ((find?_tags_lower_iff policy unit queue name definition).mp bound).exists_mem
    obtain ⟨otherDefinition, bindsOther⟩ := binds.exists_of_policy other
    exact mem_keys_tags_lower other unit otherQueue member (passes.widened widened) bindsOther

/-- A meter: a variable of its own, a reading that an included header declares as well, a function
without C linkage, and a scale that has no counterpart. -/
def meter : SourceUnit where
  declarations :=
    [{ name := "scratch", kind := .variable (.builtin .int),
       linkage := { externalFormal := false } },
      { name := "reading", kind := .variable (.builtin .double), origin := .header },
      { name := "reading", kind := .variable (.builtin .int) },
      { name := "reset", kind := .function (.builtin .void) [], linkage := { cLanguage := false } },
      { name := "scale", kind := .variable (.builtin .longDouble) }]

-- A name is kept, but its type is that of the declaration which is admitted before.
example :
    (meter.lower {} (.ofPolicy {})).1.entities.find? "reading" =
        some (.scalar ⟨.signed, .int, .unsized⟩) ∧
      (meter.lower { headerGroup := true } (.ofPolicy {})).1.entities.find? "reading" =
        some (.scalar ⟨.signed, .double, .unsized⟩) := by
  decide

/-- The reset of the meter is reported under the one policy, the scratch variable under the other,
and the scale under both. With more admitted, the reading is still there, and the reset too. -/
theorem lower_meter_switches :
    let reportsC : LoweringPolicy := {}
    let reportsExternal : LoweringPolicy :=
      { warnNoCLinkage := false, warnNoExternalFormalLinkage := true }
    let admitsMore : LoweringPolicy := { headerGroup := true, assumeExternC := true }
    reportsC.AgreesButWarnings reportsExternal ∧ reportsC.WidenedBy admitsMore ∧
    (meter.lower reportsC (.ofPolicy {})).1 = (meter.lower reportsExternal (.ofPolicy {})).1 ∧
    (meter.lower reportsC (.ofPolicy {})).2.toList.filter (!Diagnostic.isAboutLinkage ·) =
      (meter.lower reportsExternal (.ofPolicy {})).2.toList.filter (!Diagnostic.isAboutLinkage ·) ∧
    (meter.lower reportsC (.ofPolicy {})).2.toList.map Diagnostic.code =
      [.noCLinkage, .builtinUnsupported, .enclosingDeclaration] ∧
    (meter.lower reportsExternal (.ofPolicy {})).2.toList.map Diagnostic.code =
      [.noExternalLinkage, .builtinUnsupported, .enclosingDeclaration] ∧
    (meter.lower reportsC (.ofPolicy {})).1.entities.keys ⊆
      (meter.lower admitsMore (.ofPolicy {})).1.entities.keys ∧
    (meter.lower reportsC (.ofPolicy {})).1.entities.keys = ["reading"] ∧
    (meter.lower admitsMore (.ofPolicy {})).1.entities.keys = ["reading", "reset"] := by
  intro reportsC reportsExternal admitsMore
  have agrees : reportsC.AgreesButWarnings reportsExternal := ⟨rfl, rfl, rfl⟩
  have widened : reportsC.WidenedBy admitsMore := ⟨fun _ => rfl, fun _ => rfl⟩
  obtain ⟨sameModule, sameReports⟩ := (lower_switches meter reportsC reportsExternal).1 agrees
  have keeps := (lower_switches meter reportsC admitsMore).2 widened (.ofPolicy {}) (.ofPolicy {})
  exact ⟨agrees, widened, sameModule _ _, sameReports _ rfl, by decide, by decide, keeps.1,
    by decide, by decide⟩

end SourceUnit

end ForeignBindings
