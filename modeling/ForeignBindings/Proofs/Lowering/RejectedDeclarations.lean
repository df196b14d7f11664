import ForeignBindings.Proofs.Lowering.Composition
import ForeignBindings.Proofs.Lowering.Offence

/-!
# Rejected declarations

A declaration is rejected for the first of its types that is at fault. `Declaration.Reaches` says
which types are looked at, given that nothing before them is at fault, and which places of the
declaration stand around each. The report names what is wrong, then the places from the offending
node outwards: those inside of the type, which `SourceType.FirstOffence` determines, and last
those of the declaration: `SourceUnit.rejection_locates_offence`.
-/

namespace ForeignBindings

/-- A place in a declaration where a type is lowered. -/
structure Site where
  type : SourceType
  location : Location
  /-- Whether values of the type have to cross the language boundary. -/
  crosses : Bool
  /-- The places of the declaration around the type, from the inside out. -/
  enclosing : List (Frame × Location)

namespace Site

variable (policy : LoweringPolicy)

/-- Lowers the type of a site. -/
def lower (site : Site) : Except Rejection CType :=
  if site.crosses then site.type.lowerValue policy site.location
  else site.type.lower policy site.location

/-- What is wrong with the type of a site, and the places inside of the type around the fault, from
the inside out: its first offending node, or else that its values cannot cross the language
boundary. -/
inductive Fault (site : Site) : LoweringError → List (Frame × Location) → Prop
  | offence {path error} (isFirst : site.type.FirstOffence path error) :
      Fault site error (path.filterMap (TypeStep.place? site.location)).reverse
  | notMarshallable {lowered} (lowers : site.type.lower policy site.location = .ok lowered)
      (crosses : site.crosses = true) (cannot : lowered.isMarshallable = false) :
      Fault site (.notMarshallable lowered) []

end Site

namespace Declaration

variable (policy : LoweringPolicy)

/-- The types of a declaration that are looked at because nothing before them is at fault. A
parameter is looked at once the result and the parameters before it are lowered; a field once those
before it are lowered and mention no type without a name. An enum or a struct without a tag is not
looked at. -/
inductive Reaches (declaration : Declaration) : Site → Prop
  | variable {type} (kind : declaration.kind = .variable type) :
      Reaches declaration
        { type, location := declaration.location, crosses := true
          enclosing := [(.variable declaration.name, declaration.location)] }
  | result {result parameters} (kind : declaration.kind = .function result parameters) :
      Reaches declaration
        { type := result, location := declaration.location, crosses := false
          enclosing := [(.function declaration.name, declaration.location)] }
  | parameter {result loweredResult earlier parameter later place}
      (kind : declaration.kind = .function result (earlier ++ parameter :: later))
      (lowersResult : result.lower policy declaration.location = .ok loweredResult)
      (lowerEarlier : ∀ other ∈ earlier, ∃ lowered, other.type.lowerValue policy
        (other.location.orElse declaration.location) = .ok lowered)
      (standsAt : parameter.location.orElse declaration.location = place) :
      Reaches declaration
        { type := parameter.type, location := place, crosses := true
          enclosing := [(.parameter parameter.name earlier.length, place),
            (.function declaration.name, declaration.location)] }
  | integerType {name integerType enumerators}
      (declares : declaration.DeclaresTag (.enumeration name integerType enumerators))
      (named : definedTag name declaration.name ≠ "") :
      Reaches declaration
        { type := integerType, location := declaration.location, crosses := false
          enclosing :=
            [(.enumUnderlying (definedTag name declaration.name), declaration.location)] }
  | field {name earlier field later place}
      (declares : declaration.DeclaresTag (.structure name (earlier ++ field :: later)))
      (named : definedTag name declaration.name ≠ "")
      (lowerEarlier : ∀ other ∈ earlier, ∃ lowered, LowersField policy declaration.location other
        lowered)
      (standsAt : field.location.orElse declaration.location = place) :
      Reaches declaration
        { type := field.type, location := place, crosses := false
          enclosing := [(.structField field.name (definedTag name declaration.name), place)] }

/-- A declaration is rejected for a fault of the first of its types that has one. The places inside
of the type come before those of the declaration. -/
inductive RejectedWith (declaration : Declaration) : Rejection → Prop
  | of {site error inside} (reaches : declaration.Reaches policy site)
      (fault : site.Fault policy error inside) :
      RejectedWith declaration ⟨error, site.location, inside ++ site.enclosing⟩

end Declaration

/-- A rejection is reported as a warning with the code of what is wrong, and a note for each place
in the order of the context. Warning and notes point at the locations that are known. -/
structure Rejection.ReportedAs (rejection : Rejection) (warning : Diagnostic)
    (notes : List Diagnostic) : Prop where
  severity : warning.severity = .warning
  code : warning.code = rejection.error.code
  message : warning.message = "declaration is ignored: " ++ rejection.error.message
  location : warning.primaryLocation? =
    if rejection.location.isKnown then some rejection.location else none
  notes : List.Forall₂ (fun place note => note.severity = .note ∧
    note.code = .enclosingDeclaration ∧ note.message = place.1.describe ∧
    note.primaryLocation? = if place.2.isKnown then some place.2 else none) rejection.context notes

namespace SourceType

variable {policy : LoweringPolicy} {location : Location} {type : SourceType}

/-- A type whose values have to cross the language boundary is rejected as a type, or because they
cannot. -/
theorem lowerValue_eq_error_iff {rejection : Rejection} :
    type.lowerValue policy location = .error rejection ↔
      type.lower policy location = .error rejection ∨
        ∃ lowered, type.lower policy location = .ok lowered ∧ lowered.isMarshallable = false ∧
          rejection = ⟨.notMarshallable lowered, location, []⟩ := by
  unfold lowerValue
  rw [except_bind_eq_error_iff]
  refine or_congr_right (exists_congr fun lowered => and_congr_right fun _ => ?_)
  cases lowered.isMarshallable <;>
    simp [pure, Except.pure, throw, throwThe, MonadExceptOf.throw, eq_comm]

end SourceType

namespace Site

variable {policy : LoweringPolicy}

/-- A site is rejected exactly for a fault of its type. -/
theorem lower_eq_error_iff (site : Site) {rejection : Rejection} :
    site.lower policy = .error rejection ↔
      ∃ error inside, site.Fault policy error inside ∧
        rejection = ⟨error, site.location, inside⟩ := by
  have ofType : site.type.lower policy site.location = .error rejection →
      ∃ error inside, site.Fault policy error inside ∧
        rejection = ⟨error, site.location, inside⟩ := by
    intro rejects
    obtain ⟨path, error, isFirst, rfl⟩ := SourceType.lower_eq_error_iff.mp rejects
    exact ⟨error, _, .offence isFirst, rfl⟩
  constructor
  · intro rejects
    unfold lower at rejects
    split at rejects
    case isFalse => exact ofType rejects
    case isTrue crosses =>
      rcases SourceType.lowerValue_eq_error_iff.mp rejects with
        rejects | ⟨lowered, lowers, cannot, rfl⟩
      · exact ofType rejects
      · exact ⟨_, [], .notMarshallable lowers crosses cannot, rfl⟩
  · rintro ⟨error, inside, fault, rfl⟩
    unfold lower
    cases fault with
    | offence isFirst =>
      have rejects : site.type.lower policy site.location = .error (.along site.location _ error) :=
        SourceType.lower_eq_error_iff.mpr ⟨_, error, isFirst, rfl⟩
      split
      · exact SourceType.lowerValue_eq_error_iff.mpr (.inl rejects)
      · exact rejects
    | notMarshallable lowers crosses cannot =>
      rw [if_pos crosses]
      exact SourceType.lowerValue_eq_error_iff.mpr (.inr ⟨_, lowers, cannot, rfl⟩)

end Site

namespace Declaration

variable {policy : LoweringPolicy} {location : Location} {rejection : Rejection}

/-- The parameters of a function are rejected for the first one that is. -/
theorem lowerParameters_eq_error_iff {index : Nat} {parameters : List Member} :
    lowerParameters policy location index parameters = .error rejection ↔
      FirstFailure
        (fun parameter => ∃ lowered, parameter.type.lowerValue policy
          (parameter.location.orElse location) = .ok lowered)
        (fun offset parameter => ∃ inner, parameter.type.lowerValue policy
          (parameter.location.orElse location) = .error inner ∧
          inner.within (.parameter parameter.name (index + offset))
            (parameter.location.orElse location) = rejection)
        parameters := by
  induction parameters generalizing index with
  | nil => exact iff_of_false nofun not_firstFailure_nil
  | cons parameter rest inductionHypothesis =>
    unfold lowerParameters
    simp only [except_bind_eq_error_iff, Rejection.enclose_eq_error_iff,
      Rejection.enclose_eq_ok_iff, inductionHypothesis, firstFailure_cons_iff, Nat.add_zero,
      Nat.add_right_comm, Nat.add_assoc]
    simp [pure, Except.pure]

/-- A function is rejected for its result, or for a parameter if the result is lowered. -/
theorem lowerSignature_eq_error_iff {result : SourceType} {parameters : List Member} :
    lowerSignature policy location result parameters = .error rejection ↔
      result.lower policy location = .error rejection ∨
        (∃ lowered, result.lower policy location = .ok lowered) ∧
          lowerParameters policy location 0 parameters = .error rejection := by
  unfold lowerSignature
  simp only [except_bind_eq_error_iff]
  simp [pure, Except.pure]

/-- The fields of a struct are rejected for the first one that is, unless a field before it
mentions a type without a name. -/
theorem lowerFields_eq_error_iff {owner : String} {fields : List Member} :
    lowerFields policy owner location fields = .error rejection ↔
      FirstFailure
        (fun field => ∃ lowered, LowersField policy location field lowered)
        (fun _ field => ∃ inner, field.type.lower policy
          (field.location.orElse location) = .error inner ∧
          inner.within (.structField field.name owner)
            (field.location.orElse location) = rejection)
        fields := by
  induction fields with
  | nil => exact iff_of_false nofun not_firstFailure_nil
  | cons field rest inductionHypothesis =>
    unfold lowerFields
    simp only [except_bind_eq_error_iff, Rejection.enclose_eq_error_iff,
      Rejection.enclose_eq_ok_iff, firstFailure_cons_iff, ← inductionHypothesis]
    refine or_congr_right ?_
    constructor
    · rintro ⟨type, lowers, continues⟩
      split at continues
      case isTrue => cases continues
      case isFalse named =>
        refine ⟨⟨⟨field.name, type⟩, rfl, lowers, by simpa using named⟩, ?_⟩
        rcases except_bind_eq_error_iff.mp continues with fails | ⟨_, _, ends⟩
        · exact fails
        · cases ends
    · rintro ⟨⟨lowered, -, lowers, named⟩, fails⟩
      refine ⟨lowered.type, lowers, ?_⟩
      rw [named, if_neg Bool.false_ne_true]
      exact except_bind_eq_error_iff.mpr (.inl fails)

/-- A variable or a function is rejected as its type, in the place that the declaration adds. -/
theorem enclosed_eq_rejected {frame : Frame} {name : String} {result : Except Rejection CType}
    {inner : Rejection} (fails : result = .error inner) :
    (match Rejection.enclose frame location result with
      | .ok type => entityOf name type
      | .error rejection => .rejected rejection) =
      Contribution.rejected (inner.within frame location) := by
  subst fails
  rfl

variable {declaration : Declaration}

/-- What is rejected contributes its report. -/
theorem RejectedWith.lowered_eq (rejected : declaration.RejectedWith policy rejection) :
    declaration.lowered policy = .rejected rejection := by
  obtain ⟨reaches, fault⟩ := rejected
  have fails := (Site.lower_eq_error_iff _).mpr ⟨_, _, fault, rfl⟩
  cases reaches with
  | «variable» kind =>
    unfold lowered
    rw [kind]
    exact enclosed_eq_rejected fails
  | result kind =>
    unfold lowered
    rw [kind]
    exact enclosed_eq_rejected (lowerSignature_eq_error_iff.mpr (.inl fails))
  | @parameter result loweredResult earlier parameter later place kind lowersResult lowerEarlier
      standsAt =>
    subst standsAt
    have parametersFail : lowerParameters policy declaration.location 0 _ = .error _ :=
      lowerParameters_eq_error_iff.mpr
        ⟨earlier, parameter, later, rfl, lowerEarlier, _, fails, rfl⟩
    have signatureFails :=
      lowerSignature_eq_error_iff.mpr (.inr ⟨⟨loweredResult, lowersResult⟩, parametersFail⟩)
    unfold lowered
    rw [kind]
    refine (enclosed_eq_rejected signatureFails).trans (congrArg Contribution.rejected ?_)
    simp [Rejection.within]
  | integerType declares named =>
    rw [declares.lowered_eq]
    unfold typedefContribution enumerationContribution
    have rejects : SourceType.lower policy declaration.location _ = _ := fails
    simp only [if_neg named, rejects]
    rfl
  | @field name earlier field later place declares named lowerEarlier standsAt =>
    subst standsAt
    have fieldsFail : lowerFields policy (definedTag name declaration.name) _ _ = .error _ :=
      lowerFields_eq_error_iff.mpr ⟨earlier, field, later, rfl, lowerEarlier, _, fails, rfl⟩
    rw [declares.lowered_eq]
    unfold typedefContribution structureContribution
    simp only [if_neg named, fieldsFail]
    rfl

/-- A type that is reached and rejected has a fault, for which the declaration is rejected. -/
theorem Reaches.exists_rejectedWith {site : Site} (reaches : declaration.Reaches policy site)
    (rejects : site.lower policy = .error rejection) :
    ∃ reported, declaration.RejectedWith policy reported := by
  obtain ⟨error, inside, fault, -⟩ := site.lower_eq_error_iff.mp rejects
  exact ⟨_, .of reaches fault⟩

/-- An entity reports nothing. -/
theorem diagnostics_entityOf (name : String) (type : CType) :
    (entityOf name type).diagnostics = [] := by
  unfold entityOf
  split <;> rfl

/-- A tag that reports has a type that is rejected. -/
theorem DeclaresTag.exists_rejectedWith {target : TypedefTarget}
    (declares : declaration.DeclaresTag target)
    (reports : (declaration.lowered policy).diagnostics ≠ []) :
    ∃ rejection, declaration.RejectedWith policy rejection := by
  rw [declares.lowered_eq] at reports
  cases target with
  | enumeration name integerType enumerators =>
    unfold typedefContribution enumerationContribution at reports
    by_cases named : definedTag name declaration.name = ""
    · simp [named, Contribution.diagnostics] at reports
    · cases fails : integerType.lower policy declaration.location with
      | ok underlying =>
        simp [named, fails, Rejection.enclose, Except.mapError, Contribution.diagnostics] at reports
      | error inner => exact (Reaches.integerType declares named).exists_rejectedWith fails
  | «structure» name fields =>
    unfold typedefContribution structureContribution at reports
    by_cases named : definedTag name declaration.name = ""
    · simp [named, Contribution.diagnostics] at reports
    · cases fails : lowerFields policy (definedTag name declaration.name) declaration.location
          fields with
      | ok lowered =>
        cases lowered <;> simp [named, fails, Contribution.diagnostics] at reports
      | error rejection =>
        obtain ⟨earlier, field, later, rfl, lowerEarlier, inner, rejects, -⟩ :=
          lowerFields_eq_error_iff.mp fails
        exact (Reaches.field declares named lowerEarlier rfl).exists_rejectedWith rejects
  | type type => exact absurd rfl reports

/-- A function that is not lowered has a type that is rejected. -/
theorem exists_rejectedWith_of_signature {result : SourceType} {parameters : List Member}
    (kind : declaration.kind = .function result parameters)
    (fails : lowerSignature policy declaration.location result parameters = .error rejection) :
    ∃ rejection, declaration.RejectedWith policy rejection := by
  rcases lowerSignature_eq_error_iff.mp fails with
    resultFails | ⟨⟨loweredResult, lowersResult⟩, parametersFail⟩
  · exact (Reaches.result kind).exists_rejectedWith resultFails
  · obtain ⟨earlier, parameter, later, rfl, lowerEarlier, inner, rejects, -⟩ :=
      lowerParameters_eq_error_iff.mp parametersFail
    exact (Reaches.parameter kind lowersResult lowerEarlier rfl).exists_rejectedWith rejects

/-- A declaration that is lowered and reports has a type that is rejected. -/
theorem exists_rejectedWith (reports : (declaration.lowered policy).diagnostics ≠ []) :
    ∃ rejection, declaration.RejectedWith policy rejection := by
  cases kind : declaration.kind with
  | «variable» type =>
    cases fails : type.lowerValue policy declaration.location with
    | ok lowered =>
      refine absurd ?_ reports
      unfold Declaration.lowered variableContribution
      rw [kind]
      simp only [fails, Rejection.enclose, Except.mapError, diagnostics_entityOf]
    | error inner => exact (Reaches.variable kind).exists_rejectedWith fails
  | function result parameters =>
    cases fails : lowerSignature policy declaration.location result parameters with
    | ok lowered =>
      refine absurd ?_ reports
      unfold Declaration.lowered functionContribution
      rw [kind]
      simp only [fails, Rejection.enclose, Except.mapError, diagnostics_entityOf]
    | error inner => exact exists_rejectedWith_of_signature kind fails
  | enumeration integerType enumerators =>
    exact DeclaresTag.exists_rejectedWith (.enumeration kind) reports
  | «structure» fields => exact DeclaresTag.exists_rejectedWith (.structure kind) reports
  | typedef target => exact DeclaresTag.exists_rejectedWith (.typedef kind) reports

end Declaration

/-- The report of a rejection is its warning and a note for each place. -/
theorem Rejection.reportedAs (rejection : Rejection) :
    rejection.ReportedAs rejection.warning (rejection.context.map contextNote) where
  severity := severity_warning rejection
  code := by simp [warning, Diagnostic.warning]
  message := by simp [warning, Diagnostic.warning]
  location := Diagnostic.primaryLocation?_withLabel rfl ..
  notes := by
    rw [List.forall₂_map_right_iff, List.forall₂_same]
    intro place _
    exact ⟨severity_contextNote place, by simp [contextNote, Diagnostic.note],
      by simp [contextNote, Diagnostic.note], Diagnostic.primaryLocation?_withLabel rfl ..⟩

namespace SourceUnit

variable (policy : LoweringPolicy)

/-- After other declarations, a declaration adds its report to the queue. -/
theorem queue_lower_append_singleton (file : String) (earlier : List Declaration)
    (declaration : Declaration) (queue : Queue) :
    (lower policy ⟨file, earlier ++ [declaration]⟩ queue).2 =
      (lower policy ⟨file, earlier⟩ queue).2.extend
        (declaration.contribution policy).diagnostics := by
  simp [lower, contributions, Queue.extend]

/-- A rejection identifies what is wrong and the way to it. A type is rejected exactly for its
first offending node, at the location where it stands; read from the last place to the first, the
context is the way from the root to that node. Behind the gates, a declaration with a type at
fault is reported by a warning about the fault, and notes for the places around it: those inside of
the type, then those of the declaration. A declaration without a fault reports nothing. -/
theorem rejection_locates_offence :
    (∀ (location : Location) (type : SourceType) (rejection : Rejection),
      type.lower policy location = .error rejection ↔
        ∃ path error, type.FirstOffence path error ∧ rejection.error = error ∧
          rejection.location = location ∧
          rejection.context.reverse = path.filterMap (TypeStep.place? location)) ∧
    ∀ declaration : Declaration, declaration.Passes policy →
      (∀ rejection, declaration.RejectedWith policy rejection →
        ∃ warning notes, rejection.ReportedAs warning notes ∧
          (∀ file, (lower policy ⟨file, [declaration]⟩ (.ofPolicy {})).2.toList =
            warning :: notes) ∧
          ∀ file earlier queue, (lower policy ⟨file, earlier ++ [declaration]⟩ queue).2 =
            (lower policy ⟨file, earlier⟩ queue).2.extend (warning :: notes)) ∧
      ((∀ rejection, ¬ declaration.RejectedWith policy rejection) →
        ∀ file earlier queue, (lower policy ⟨file, earlier ++ [declaration]⟩ queue).2 =
          (lower policy ⟨file, earlier⟩ queue).2) := by
  refine ⟨fun location type rejection => ?types, fun declaration passes => ⟨?reported, ?silent⟩⟩
  case types =>
    rw [SourceType.lower_eq_error_iff]
    refine exists₂_congr fun path error => and_congr_right fun _ => ?_
    constructor
    · rintro rfl
      exact ⟨rfl, rfl, List.reverse_reverse _⟩
    · rintro ⟨rfl, rfl, places⟩
      unfold Rejection.along
      rw [← places, List.reverse_reverse]
  case reported =>
    intro rejection rejected
    have reports : (declaration.contribution policy).diagnostics = rejection.diagnostics := by
      rcases declaration.contribution_cases policy with ⟨-, same⟩ | ⟨fails, -⟩
      · rw [same, rejected.lowered_eq]
        rfl
      · exact absurd passes fails
    refine ⟨_, _, rejection.reportedAs, fun file => ?_, fun file earlier queue => ?_⟩
    · rw [toList_lower_singleton, reports]
      rfl
    · rw [queue_lower_append_singleton, reports]
      rfl
  case silent =>
    intro noFault file earlier queue
    have silent : (declaration.contribution policy).diagnostics = [] := by
      rcases declaration.contribution_cases policy with ⟨-, same⟩ | ⟨fails, -⟩
      · rw [same]
        by_contra reports
        obtain ⟨rejection, rejected⟩ := Declaration.exists_rejectedWith reports
        exact noFault rejection rejected
      · exact absurd passes fails
    rw [queue_lower_append_singleton, silent]
    rfl

/-- A parameter for a callback that takes a reference, of the typedef of the given name. -/
def callbackParameter (typedefName : String) : Member where
  name := "callback"
  type := .typedef typedefName "" false
    (.pointer (.prototype .c (.builtin .void) [.builtin .int, .lvalueReference (.builtin .int)]))

/-- A function with a callback that takes a reference. -/
def registerDeclaration : Declaration where
  name := "register"
  location := ⟨"api.h", 4, 6⟩
  kind := .function (.builtin .void)
    [{ name := "count", type := .builtin .int }, callbackParameter "callback_t"]

/-- The rejection of the function, for the second parameter of its callback. -/
def registerRejection : Rejection where
  error := .unsupportedReference
  location := ⟨"api.h", 4, 6⟩
  context := [
    (.prototypeParameter 1, ⟨"api.h", 4, 6⟩),
    (.typedefAlias "callback_t", .unknown),
    (.parameter "callback" 1, ⟨"api.h", 4, 6⟩),
    (.function "register", ⟨"api.h", 4, 6⟩)]

theorem registerDeclaration_rejectedWith :
    registerDeclaration.RejectedWith {} registerRejection := by
  have kind : registerDeclaration.kind = .function (.builtin .void)
      ([{ name := "count", type := .builtin .int }] ++ [callbackParameter "callback_t"]) := rfl
  have reaches : registerDeclaration.Reaches {}
      ⟨(callbackParameter "callback_t").type, ⟨"api.h", 4, 6⟩, true, _⟩ :=
    .parameter kind rfl (List.forall_mem_singleton.mpr ⟨_, rfl⟩) rfl
  obtain ⟨error, inside, fault, equal⟩ :=
    (Site.lower_eq_error_iff
      ⟨(callbackParameter "callback_t").type, ⟨"api.h", 4, 6⟩, true, _⟩).mp rfl
  cases equal
  exact .of reaches fault

/-- Its report leads from the reference to the function. -/
theorem register_rejection_reported :
    registerDeclaration.Passes {} ∧ registerDeclaration.RejectedWith {} registerRejection ∧
    ∃ warning notes,
      (lower {} ⟨"api.h", [registerDeclaration]⟩ (.ofPolicy {})).2.toList = warning :: notes ∧
      warning.code = .referenceUnsupported ∧
      notes.map Diagnostic.message = [
        "in the 2nd parameter type of this function pointer",
        "in typedef declaration for type alias `callback_t`",
        "in declaration for parameter `callback`",
        "declaration for function `register` is therefore ignored"] := by
  have passes : registerDeclaration.Passes {} := ⟨rfl, rfl, fun _ => .inl rfl⟩
  obtain ⟨warning, notes, reported, queued, -⟩ :=
    ((rejection_locates_offence {}).2 registerDeclaration passes).1 registerRejection
      registerDeclaration_rejectedWith
  have messages : notes.map Diagnostic.message =
      registerRejection.context.map fun place => place.1.describe := by
    rw [← List.forall₂_eq_eq_eq, List.forall₂_map_left_iff, List.forall₂_map_right_iff]
    exact reported.notes.flip.imp fun _ _ holds => holds.2.2.1
  exact ⟨passes, registerDeclaration_rejectedWith, warning, notes, queued "api.h", reported.code,
    messages.trans (by decide)⟩

end SourceUnit

end ForeignBindings
