import ForeignBindings.Proofs.Lowering.Binding

/-!
# What a declaration reports

A declaration reports at most once: that it lacks a linkage or, behind the gates, that
it is rejected, with a note for each place around what is wrong. One that reports does
not add to the module.
-/

namespace ForeignBindings

namespace Diagnostic

/-- A label changes no severity. -/
@[simp] theorem severity_withLabel (diagnostic : Diagnostic) (location : Location)
    (message : String) :
    (diagnostic.withLabel location message).severity = diagnostic.severity := by
  unfold withLabel
  split <;> rfl

/-- A label changes no code. -/
@[simp] theorem code_withLabel (diagnostic : Diagnostic) (location : Location)
    (message : String) :
    (diagnostic.withLabel location message).code = diagnostic.code := by
  unfold withLabel
  split <;> rfl

/-- A label changes no message. -/
@[simp] theorem message_withLabel (diagnostic : Diagnostic) (location : Location)
    (text : String) : (diagnostic.withLabel location text).message = diagnostic.message := by
  unfold withLabel
  split <;> rfl

/-- A diagnostic points at the location of its first label, if that is known. -/
theorem primaryLocation?_withLabel {diagnostic : Diagnostic} (noLabel : diagnostic.labels = [])
    (location : Location) (text : String) :
    (diagnostic.withLabel location text).primaryLocation? =
      if location.isKnown then some location else none := by
  unfold withLabel
  split <;> simp [primaryLocation?, noLabel]

/-- A suggestion changes no severity. -/
@[simp] theorem severity_withSuggestion (diagnostic : Diagnostic) (suggestion : String) :
    (diagnostic.withSuggestion suggestion).severity = diagnostic.severity := rfl

end Diagnostic

namespace Rejection

/-- A rejection is reported as a warning. -/
theorem severity_warning (rejection : Rejection) : rejection.warning.severity = .warning := by
  simp [warning, Diagnostic.warning]

/-- A place around a rejection is reported as a note. -/
theorem severity_contextNote (place : Frame × Location) : (contextNote place).severity = .note := by
  simp [contextNote, Diagnostic.note]

end Rejection

namespace Contribution

/-- A contribution that reports adds nothing. -/
theorem addTo_of_diagnostics_ne_nil {contribution : Contribution} (contents : Contents)
    (reports : contribution.diagnostics ≠ []) : contribution.addTo contents = contents := by
  cases contribution with
  | nothing => rfl
  | report diagnostics => rfl
  | entity name type => exact absurd rfl reports
  | tag name definition => exact absurd rfl reports

/-- A contribution that gives no name a type or a definition adds nothing. -/
theorem addTo_of_binds_nothing {contribution : Contribution} (contents : Contents)
    (noEntity : ∀ name, contribution.entity? name = none)
    (noTag : ∀ name, contribution.tag? name = none) :
    contribution.addTo contents = contents := by
  cases contribution with
  | nothing => rfl
  | report diagnostics => rfl
  | entity name type => simpa [entity?] using noEntity name
  | tag name definition => simpa [tag?] using noTag name

end Contribution

namespace Declaration

variable (policy : LoweringPolicy)

/-- The reports of a declaration: none, that it lacks a linkage, or, behind the gates, why it
is rejected. -/
inductive ReportBlock (declaration : Declaration) : List Diagnostic → Prop
  | silent : ReportBlock declaration []
  | externalLinkage (isPublic : declaration.isPublic policy = true)
      (lacks : declaration.linkage.externalFormal = false)
      (warns : policy.warnNoExternalFormalLinkage = true) :
      ReportBlock declaration [declaration.externalLinkageWarning]
  | cLinkage (isPublic : declaration.isPublic policy = true)
      (isExternal : declaration.linkage.externalFormal = true)
      (isEntity : declaration.isEntity = true)
      (lacks : declaration.linkage.cLanguage = false ∧ policy.assumeExternC = false)
      (warns : policy.warnNoCLinkage = true) :
      ReportBlock declaration [declaration.cLinkageWarning]
  | rejected {rejection} (passes : declaration.Passes policy)
      (rejects : declaration.lowered policy = .rejected rejection) :
      ReportBlock declaration
        (rejection.warning :: rejection.context.map Rejection.contextNote)

variable {policy}

/-- What is lowered to an entity reports nothing, unless it is rejected. -/
theorem silent_or_rejected_enclosed {frame : Frame} {location : Location} {name : String}
    {result : Except Rejection CType} {contribution : Contribution}
    (same : contribution = match Rejection.enclose frame location result with
      | .ok type => entityOf name type
      | .error rejection => .rejected rejection) :
    contribution.diagnostics = [] ∨ ∃ rejection, contribution = .rejected rejection := by
  subst same
  split
  · left
    unfold entityOf
    split <;> rfl
  · exact Or.inr ⟨_, rfl⟩

/-- An enum reports nothing, unless it is rejected. -/
theorem silent_or_rejected_enumerationContribution (name : String) (location : Location)
    (integerType : SourceType) (enumerators : List Enumerator) :
    (enumerationContribution policy name location integerType enumerators).diagnostics = [] ∨
      ∃ rejection, enumerationContribution policy name location integerType enumerators =
        .rejected rejection := by
  unfold enumerationContribution
  split
  · exact Or.inl rfl
  · split
    · exact Or.inl rfl
    · exact Or.inr ⟨_, rfl⟩

/-- A struct reports nothing, unless it is rejected. -/
theorem silent_or_rejected_structureContribution (name : String) (location : Location)
    (fields : List Member) :
    (structureContribution policy name location fields).diagnostics = [] ∨
      ∃ rejection, structureContribution policy name location fields = .rejected rejection := by
  unfold structureContribution
  split
  · exact Or.inl rfl
  · split
    · exact Or.inl rfl
    · exact Or.inl rfl
    · exact Or.inr ⟨_, rfl⟩

/-- A declaration that is lowered reports nothing, unless it is rejected. -/
theorem silent_or_rejected (policy : LoweringPolicy) (declaration : Declaration) :
    (declaration.lowered policy).diagnostics = [] ∨
      ∃ rejection, declaration.lowered policy = .rejected rejection := by
  unfold lowered
  cases declaration.kind with
  | «variable» source => exact silent_or_rejected_enclosed rfl
  | function result parameters => exact silent_or_rejected_enclosed rfl
  | enumeration integerType enumerators => exact silent_or_rejected_enumerationContribution ..
  | «structure» fields => exact silent_or_rejected_structureContribution ..
  | typedef target =>
    cases target with
    | enumeration tagName integerType enumerators =>
      exact silent_or_rejected_enumerationContribution ..
    | «structure» tagName fields => exact silent_or_rejected_structureContribution ..
    | type type => exact Or.inl rfl

/-- What a declaration that the gates hold back reports is at most that it lacks a linkage. -/
theorem reportBlock_of_not_passes {declaration : Declaration}
    (fails : ¬ declaration.Passes policy) :
    declaration.ReportBlock policy (declaration.contribution policy).diagnostics := by
  unfold contribution
  by_cases isPublic : declaration.isPublic policy = true
  · by_cases isExternal : declaration.linkage.externalFormal = true
    · have lacksC : declaration.isEntity = true ∧
          declaration.linkage.cLanguage = false ∧ policy.assumeExternC = false := by
        by_contra isC
        refine fails ⟨isPublic, isExternal, fun isEntity => ?_⟩
        simpa [isEntity, or_iff_not_imp_left] using isC
      obtain ⟨isEntity, notC, notAssumed⟩ := lacksC
      by_cases warns : policy.warnNoCLinkage = true
      · simpa [Contribution.diagnostics, isPublic, isExternal, isEntity, notC, notAssumed, warns]
          using ReportBlock.cLinkage isPublic isExternal isEntity ⟨notC, notAssumed⟩ warns
      · simpa [Contribution.diagnostics, isPublic, isExternal, isEntity, notC, notAssumed, warns]
          using ReportBlock.silent
    · by_cases warns : policy.warnNoExternalFormalLinkage = true
      · simpa [Contribution.diagnostics, isPublic, isExternal, warns] using
          ReportBlock.externalLinkage isPublic (by simpa using isExternal) warns
      · simpa [Contribution.diagnostics, isPublic, isExternal, warns] using ReportBlock.silent
  · simpa [Contribution.diagnostics, isPublic] using ReportBlock.silent

/-- What a declaration reports is at most one block. -/
theorem reportBlock_contribution (policy : LoweringPolicy) (declaration : Declaration) :
    declaration.ReportBlock policy (declaration.contribution policy).diagnostics := by
  rcases declaration.contribution_cases policy with ⟨passes, same⟩ | ⟨fails, -⟩
  · rw [same]
    rcases declaration.silent_or_rejected policy with silent | ⟨rejection, rejects⟩
    · rw [silent]
      exact .silent
    · rw [rejects]
      exact .rejected passes rejects
  · exact reportBlock_of_not_passes fails

/-- A declaration that the gates hold back adds nothing. -/
theorem addTo_contribution_of_not_passes {declaration : Declaration}
    (fails : ¬ declaration.Passes policy) (contents : Contents) :
    (declaration.contribution policy).addTo contents = contents := by
  rcases declaration.contribution_cases policy with ⟨passes, -⟩ | ⟨-, same | same | same⟩
  · exact absurd passes fails
  · rw [same]
    rfl
  · rw [same]
    rfl
  · rw [same]
    rfl

end Declaration

end ForeignBindings
