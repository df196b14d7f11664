import ForeignBindings.Proofs.Lowering.Parts
import Mathlib.Data.List.Basic

/-!
# The first offending node

Nodes of a type are told apart by the steps that lead to them from the root, and ordered as they
are looked at: a node before what stands below it, the result of a prototype before the
parameters, these from left to right. A type is rejected for the first node in this order that has
no counterpart. The rejection lists the places on the way to that node:
`SourceType.lower_eq_error_iff`.
-/

namespace ForeignBindings

/-- The first part of a computation fails, or the rest does with what that yields. -/
theorem except_bind_eq_error_iff {ε α β : Type} {first : Except ε α} {rest : α → Except ε β}
    {failure : ε} :
    (first >>= rest) = .error failure ↔
      first = .error failure ∨
        ∃ intermediate, first = .ok intermediate ∧ rest intermediate = .error failure := by
  cases first <;> simp [bind, Except.bind]

/-- An enclosing place is added to what a computation fails with. -/
theorem Rejection.enclose_eq_error_iff {α : Type} {frame : Frame} {location : Location}
    {result : Except Rejection α} {rejection : Rejection} :
    enclose frame location result = .error rejection ↔
      ∃ inner, result = .error inner ∧ inner.within frame location = rejection := by
  unfold enclose
  cases result <;> simp [Except.mapError]

/-- An item of a list fails at its index, and all items before it pass. -/
def FirstFailure {α : Type} (passes : α → Prop) (fails : Nat → α → Prop) (items : List α) : Prop :=
  ∃ earlier item later, items = earlier ++ item :: later ∧ (∀ other ∈ earlier, passes other) ∧
    fails earlier.length item

section FirstFailure

variable {α : Type} {passes : α → Prop} {fails : Nat → α → Prop}

theorem not_firstFailure_nil : ¬ FirstFailure passes fails [] := by
  rintro ⟨earlier, item, later, split, -⟩
  simp at split

/-- The first item fails, or it passes and one of the others is the first that fails. -/
theorem firstFailure_cons_iff {item : α} {rest : List α} :
    FirstFailure passes fails (item :: rest) ↔
      fails 0 item ∨ passes item ∧ FirstFailure passes (fun index => fails (index + 1)) rest := by
  constructor
  · rintro ⟨earlier, found, later, split, pass, isFailure⟩
    cases earlier with
    | nil =>
      obtain ⟨rfl, rfl⟩ := List.cons.inj split
      exact .inl isFailure
    | cons first others =>
      obtain ⟨rfl, rfl⟩ := List.cons.inj split
      obtain ⟨firstPasses, othersPass⟩ := List.forall_mem_cons.mp pass
      exact .inr ⟨firstPasses, others, found, later, rfl, othersPass, isFailure⟩
  · rintro (isFailure | ⟨firstPasses, earlier, found, later, rfl, othersPass, isFailure⟩)
    · exact ⟨[], item, rest, rfl, List.forall_mem_nil _, isFailure⟩
    · exact ⟨item :: earlier, found, later, rfl,
        List.forall_mem_cons.mpr ⟨firstPasses, othersPass⟩, isFailure⟩

end FirstFailure

/-- A step from a type to one that it is made of. -/
inductive TypeStep where
  | pointee
  /-- From a typedef of that name to the type that it names. -/
  | underlying (name : String)
  | result
  | parameter (index : Nat)
deriving DecidableEq, Repr

namespace TypeStep

/-- The order in which the parts of a prototype are looked at. -/
inductive Precedes : TypeStep → TypeStep → Prop
  | result {index} : Precedes .result (.parameter index)
  | parameter {index later : Nat} (less : index < later) :
      Precedes (.parameter index) (.parameter later)

/-- The place that a step passes through, in a declaration at a location: none at a pointer, and
one without a location at a typedef. -/
def place? (location : Location) : TypeStep → Option (Frame × Location)
  | pointee => none
  | underlying name => some (.typedefAlias name, .unknown)
  | result => some (.prototypeReturn, location)
  | parameter index => some (.prototypeParameter index, location)

end TypeStep

namespace Rejection

/-- The rejection for what stands at the end of a path, in a declaration at a location. It lists
the places on the path from the inside out. -/
def along (location : Location) (path : List TypeStep) (error : LoweringError) : Rejection :=
  ⟨error, location, (path.filterMap (TypeStep.place? location)).reverse⟩

/-- A step in front of a path adds its place. -/
theorem along_within {location place : Location} {path : List TypeStep} {error : LoweringError}
    {step : TypeStep} {frame : Frame} (passes : step.place? location = some (frame, place)) :
    (along location path error).within frame place = along location (step :: path) error := by
  unfold along within
  rw [List.filterMap_cons_some passes, List.reverse_cons]

end Rejection

namespace SourceType

/-- A step leads from a type to one that it is made of. -/
inductive StepsTo : SourceType → TypeStep → SourceType → Prop
  | pointee {pointee} : StepsTo (.pointer pointee) .pointee pointee
  | underlying {name qualifiedName inSystemHeader underlying} :
      StepsTo (.typedef name qualifiedName inSystemHeader underlying) (.underlying name) underlying
  | result {convention result parameters} :
      StepsTo (.prototype convention result parameters) .result result
  | parameter {convention result parameters index parameter}
      (found : parameters[index]? = some parameter) :
      StepsTo (.prototype convention result parameters) (.parameter index) parameter

/-- A path leads from a type to one that occurs in it. -/
inductive Leads : SourceType → List TypeStep → SourceType → Prop
  | here {type} : Leads type [] type
  | further {type step next path part} (steps : StepsTo type step next)
      (onward : Leads next path part) : Leads type (step :: path) part

/-- The node at the end of a path is the first one in a type that has no counterpart. Paths are
compared step by step; a node comes before those below it. -/
structure FirstOffence (type : SourceType) (path : List TypeStep) (error : LoweringError) :
    Prop where
  offends : ∃ part, type.Leads path part ∧ part.Offends error
  first : ∀ earlier part, List.Lex TypeStep.Precedes earlier path → type.Leads earlier part →
    ∀ other, ¬ part.Offends other

/-- A step leads to one type. -/
theorem StepsTo.unique {type next other : SourceType} {step : TypeStep}
    (steps : type.StepsTo step next) (stepsOther : type.StepsTo step other) : next = other := by
  cases steps with
  | parameter found =>
    cases stepsOther with
    | parameter foundOther => exact Option.some.inj (found.symm.trans foundOther)
  | _ =>
    cases stepsOther
    rfl

/-- Of two steps from a type, one precedes the other unless they are the same. -/
theorem StepsTo.compare {type next other : SourceType} {step otherStep : TypeStep}
    (steps : type.StepsTo step next) (stepsOther : type.StepsTo otherStep other) :
    step.Precedes otherStep ∨ step = otherStep ∨ otherStep.Precedes step := by
  cases steps with
  | pointee =>
    cases stepsOther
    exact .inr (.inl rfl)
  | underlying =>
    cases stepsOther
    exact .inr (.inl rfl)
  | result =>
    cases stepsOther with
    | result => exact .inr (.inl rfl)
    | parameter => exact .inl .result
  | @parameter _ _ _ index _ found =>
    cases stepsOther with
    | result => exact .inr (.inr .result)
    | @parameter _ _ _ otherIndex _ foundOther =>
      rcases Nat.lt_trichotomy index otherIndex with less | rfl | greater
      · exact .inl (.parameter less)
      · exact .inr (.inl rfl)
      · exact .inr (.inr (.parameter greater))

/-- A step leads to a part of a type, and so to the parts of that. -/
theorem StepsTo.occurs {type next part : SourceType} {step : TypeStep}
    (steps : type.StepsTo step next) (inside : part.Occurs next) : part.Occurs type := by
  cases steps with
  | pointee => exact .pointer inside
  | underlying => exact .typedef inside
  | result => exact .result inside
  | parameter found => exact .parameter (List.mem_of_getElem? found) inside

/-- A path leads to a part of a type. -/
theorem Leads.occurs {type part : SourceType} {path : List TypeStep}
    (leads : type.Leads path part) : part.Occurs type := by
  induction leads with
  | here => exact .here
  | further steps _ inductionHypothesis => exact steps.occurs inductionHypothesis

/-- A path leads to one part. -/
theorem Leads.unique {type part other : SourceType} {path : List TypeStep}
    (leads : type.Leads path part) (leadsOther : type.Leads path other) : part = other := by
  induction leads with
  | here =>
    cases leadsOther
    rfl
  | further steps _ inductionHypothesis =>
    cases leadsOther with
    | further stepsOther onward =>
      obtain rfl := steps.unique stepsOther
      exact inductionHypothesis onward

/-- Of two paths in a type, one comes before the other unless they are the same. -/
theorem Leads.compare {type part other : SourceType} {path otherPath : List TypeStep}
    (leads : type.Leads path part) (leadsOther : type.Leads otherPath other) :
    List.Lex TypeStep.Precedes path otherPath ∨ path = otherPath ∨
      List.Lex TypeStep.Precedes otherPath path := by
  induction leads generalizing otherPath with
  | here =>
    cases leadsOther with
    | here => exact .inr (.inl rfl)
    | further => exact .inl .nil
  | further steps _ inductionHypothesis =>
    cases leadsOther with
    | here => exact .inr (.inr .nil)
    | further stepsOther onward =>
      rcases steps.compare stepsOther with before | rfl | after
      · exact .inl (.rel before)
      · obtain rfl := steps.unique stepsOther
        rcases inductionHypothesis onward with before | rfl | after
        · exact .inl (.cons before)
        · exact .inr (.inl rfl)
        · exact .inr (.inr (.cons after))
      · exact .inr (.inr (.rel after))

namespace FirstOffence

variable {type : SourceType} {path : List TypeStep} {error : LoweringError}

/-- There is at most one first offending node. -/
theorem unique {otherPath : List TypeStep} {otherError : LoweringError}
    (isFirst : type.FirstOffence path error) (isOther : type.FirstOffence otherPath otherError) :
    path = otherPath ∧ error = otherError := by
  obtain ⟨part, leads, offends⟩ := isFirst.offends
  obtain ⟨other, leadsOther, offendsOther⟩ := isOther.offends
  rcases leads.compare leadsOther with before | rfl | after
  · exact absurd offends (isOther.first path part before leads error)
  · obtain rfl := leads.unique leadsOther
    exact ⟨rfl, offends.unique offendsOther⟩
  · exact absurd offendsOther (isFirst.first otherPath other after leadsOther otherError)

/-- A type that offends itself is the first node to do so. -/
theorem here (offends : type.Offends error) : type.FirstOffence [] error where
  offends := ⟨type, .here, offends⟩
  first := fun _ _ before => nomatch before

/-- The first offending node of a part is that of the type, if the type itself does not offend and
no step before the one to the part leads to an offending node. -/
theorem below {next : SourceType} {step : TypeStep} (steps : type.StepsTo step next)
    (isFirst : next.FirstOffence path error) (sound : ∀ other, ¬ type.Offends other)
    (before : ∀ otherStep other, otherStep.Precedes step → type.StepsTo otherStep other →
      ∀ part : SourceType, part.Occurs other → ∀ otherError, ¬ part.Offends otherError) :
    type.FirstOffence (step :: path) error where
  offends := by
    obtain ⟨part, leads, offends⟩ := isFirst.offends
    exact ⟨part, .further steps leads, offends⟩
  first := by
    intro earlier part earlierFirst leads
    cases leads with
    | here => exact sound
    | further stepsOther onward =>
      cases earlierFirst with
      | rel precedes => exact before _ _ precedes stepsOther part onward.occurs
      | cons earlierFirst =>
        obtain rfl := steps.unique stepsOther
        exact isFirst.first _ part earlierFirst onward

end FirstOffence

variable {policy : LoweringPolicy} {location : Location} {rejection : Rejection}

/-- A pointer is rejected as what it points to. -/
theorem lower_pointer_eq_error_iff {pointee : SourceType} :
    (pointer pointee).lower policy location = .error rejection ↔
      pointee.lower policy location = .error rejection := by
  rw [lower]
  cases pointee.lower policy location <;> simp [Except.map]

/-- A typedef is rejected as what it names, and adds a place. -/
theorem lower_typedef_eq_error_iff {name qualifiedName : String} {inSystemHeader : Bool}
    {underlying : SourceType} :
    (typedef name qualifiedName inSystemHeader underlying).lower policy location =
        .error rejection ↔
      ∃ inner, underlying.lower policy location = .error inner ∧
        inner.within (.typedefAlias name) .unknown = rejection := by
  rw [lower, ← Rejection.enclose_eq_error_iff]
  cases Rejection.enclose (.typedefAlias name) .unknown (underlying.lower policy location) <;>
    simp [Except.map]

/-- The parameters of a prototype are rejected for the first one that is. -/
theorem lowerParameters_eq_error_iff {index : Nat} {parameters : List SourceType} :
    lowerParameters policy location index parameters = .error rejection ↔
      FirstFailure (fun parameter => ∃ lowered, parameter.lower policy location = .ok lowered)
        (fun offset parameter => ∃ inner, parameter.lower policy location = .error inner ∧
          inner.within (.prototypeParameter (index + offset)) location = rejection)
        parameters := by
  induction parameters generalizing index with
  | nil => exact iff_of_false nofun not_firstFailure_nil
  | cons parameter rest inductionHypothesis =>
    unfold lowerParameters
    simp only [except_bind_eq_error_iff, Rejection.enclose_eq_error_iff,
      Rejection.enclose_eq_ok_iff, inductionHypothesis, firstFailure_cons_iff, Nat.add_zero,
      Nat.add_right_comm, Nat.add_assoc]
    simp [pure, Except.pure]

/-- A prototype with the convention of C is rejected for its result, or for a parameter if the
result is lowered. -/
theorem lower_prototype_eq_error_iff {result : SourceType} {parameters : List SourceType} :
    (prototype .c result parameters).lower policy location = .error rejection ↔
      (∃ inner, result.lower policy location = .error inner ∧
        inner.within .prototypeReturn location = rejection) ∨
      (∃ lowered, result.lower policy location = .ok lowered) ∧
        FirstFailure (fun parameter => ∃ lowered, parameter.lower policy location = .ok lowered)
          (fun index parameter => ∃ inner, parameter.lower policy location = .error inner ∧
            inner.within (.prototypeParameter index) location = rejection) parameters := by
  rw [lower, if_neg (not_not.mpr rfl)]
  simp only [except_bind_eq_error_iff, Rejection.enclose_eq_error_iff,
    Rejection.enclose_eq_ok_iff, lowerParameters_eq_error_iff, Nat.zero_add]
  simp [pure, Except.pure]

/-- Every rejection of a type is for a first offending node. -/
theorem exists_firstOffence {type : SourceType}
    (rejects : type.lower policy location = .error rejection) :
    ∃ path error, type.FirstOffence path error ∧ rejection = .along location path error := by
  induction type using SourceType.induction generalizing rejection with
  | builtin kind =>
    unfold lower at rejects
    split at rejects
    case h_1 => cases rejects
    case h_2 noScalar =>
      cases rejects
      exact ⟨[], _, .here (.builtin noScalar), rfl⟩
  | lvalueReference referee =>
    cases rejects
    exact ⟨[], _, .here .lvalueReference, rfl⟩
  | rvalueReference referee =>
    cases rejects
    exact ⟨[], _, .here .rvalueReference, rfl⟩
  | templateSpecialization printedName => cases rejects
  | tag name => cases rejects
  | other description =>
    cases rejects
    exact ⟨[], _, .here .other, rfl⟩
  | pointer pointee inductionHypothesis =>
    obtain ⟨path, error, isFirst, rfl⟩ :=
      inductionHypothesis (lower_pointer_eq_error_iff.mp rejects)
    exact ⟨.pointee :: path, error, isFirst.below .pointee nofun nofun, rfl⟩
  | «typedef» name qualifiedName inSystemHeader underlying inductionHypothesis =>
    obtain ⟨inner, rejectsNamed, rfl⟩ := lower_typedef_eq_error_iff.mp rejects
    obtain ⟨path, error, isFirst, rfl⟩ := inductionHypothesis rejectsNamed
    exact ⟨.underlying name :: path, error, isFirst.below .underlying nofun nofun,
      Rejection.along_within rfl⟩
  | prototype convention result parameters ofResult ofParameters =>
    by_cases foreign : convention = .c
    case neg =>
      have offends : (prototype convention result parameters).Offends _ := .convention foreign
      cases offends.lower_eq.symm.trans rejects
      exact ⟨[], _, .here offends, rfl⟩
    subst foreign
    have sound : ∀ error, ¬ (prototype .c result parameters).Offends error := by
      rintro error ⟨⟩
      contradiction
    rcases lower_prototype_eq_error_iff.mp rejects with
      ⟨inner, rejectsResult, rfl⟩ |
        ⟨⟨loweredResult, lowersResult⟩, earlier, parameter, later, rfl, lowerEarlier, inner,
          rejectsParameter, rfl⟩
    · obtain ⟨path, error, isFirst, rfl⟩ := ofResult rejectsResult
      exact ⟨.result :: path, error, isFirst.below .result sound nofun,
        Rejection.along_within rfl⟩
    · obtain ⟨path, error, isFirst, rfl⟩ := ofParameters parameter (by simp) rejectsParameter
      refine ⟨.parameter earlier.length :: path, error,
        isFirst.below (.parameter (by simp)) sound ?_, Rejection.along_within rfl⟩
      intro step other precedes steps part inside error
      -- What is looked at before the parameter is lowered, so it holds nothing that offends.
      cases steps with
      | result => exact inside.not_offends lowersResult error
      | parameter found =>
        cases precedes with
        | parameter less =>
          rw [List.getElem?_append_left less] at found
          obtain ⟨lowered, lowers⟩ := lowerEarlier other (List.mem_of_getElem? found)
          exact inside.not_offends lowers error

/-- A type is rejected for its first offending node, at the location where it stands, and with the
places on the way to that node. -/
theorem lower_eq_error_iff {type : SourceType} :
    type.lower policy location = .error rejection ↔
      ∃ path error, type.FirstOffence path error ∧ rejection = .along location path error := by
  refine ⟨exists_firstOffence, ?_⟩
  rintro ⟨path, error, isFirst, rfl⟩
  obtain ⟨part, leads, offends⟩ := isFirst.offends
  cases lowers : type.lower policy location with
  | ok lowered => exact absurd offends (leads.occurs.not_offends lowers error)
  | error rejection =>
    obtain ⟨otherPath, otherError, isOther, rfl⟩ := exists_firstOffence lowers
    obtain ⟨rfl, rfl⟩ := isFirst.unique isOther
    rfl

/-- A type is lowered exactly if nothing that occurs in it is without a counterpart. -/
theorem exists_lower_eq_ok_iff {type : SourceType} :
    (∃ lowered, type.lower policy location = .ok lowered) ↔
      ∀ part : SourceType, part.Occurs type → ∀ error, ¬ part.Offends error := by
  constructor
  · rintro ⟨lowered, lowers⟩ part occurs error
    exact occurs.not_offends lowers error
  · intro sound
    cases lowers : type.lower policy location with
    | ok lowered => exact ⟨lowered, rfl⟩
    | error rejection =>
      obtain ⟨path, error, isFirst, -⟩ := exists_firstOffence lowers
      obtain ⟨part, leads, offends⟩ := isFirst.offends
      exact absurd offends (sound part leads.occurs error)

end SourceType

end ForeignBindings
