import ForeignBindings.Lowering.Type
import ForeignBindings.Proofs.Render.TypeTokens

/-!
# How rendered types read

`CType.hostType` is the Haskell type that a C type is meant to be rendered as, and
`CType.hostTokens` are the tokens of its text. They read as that type unless some function takes
a function that takes parameters itself: the text of such a parameter has no parentheses, so that
its parameters read as parameters of the outer function. This is the only way to be misread:
`Render.typeText_reads_as_intended_iff`.
-/

namespace ForeignBindings

open HostToken

namespace Scalar

/-- The tokens of the name of a scalar are an atom. -/
theorem reads_hostTokens (leaf : Scalar) :
    HostType.Reads .atom leaf.hostTokens (.constructor leaf.haskellName) := by
  unfold hostTokens
  split
  case isTrue isUnit =>
    rw [isUnit]
    exact .unit
  case isFalse => exact .constructor leaf.haskellName

end Scalar

namespace HostType

/-- A function of several arguments, one after the other. -/
def arrows (arguments : List HostType) (result : HostType) : HostType :=
  arguments.foldr arrow result

/-- A type with an arrow behind it, if the arrow has a right side. -/
def before (argument : HostType) : Option HostType → HostType
  | none => argument
  | some result => .arrow argument result

/-- The number of arguments of a function. -/
def arity : HostType → Nat
  | .constructor _ | .variable _ | .apply _ _ => 0
  | .arrow _ result => result.arity + 1

/-- What stands behind a type: nothing, or an arrow with its right side. -/
inductive Follows : List HostToken → Option HostType → Prop
  | nothing : Follows [] none
  | arrow {tokens type} (behind : Reads .loose tokens type) :
      Follows (.arrow :: tokens) (some type)

/-- An application reads as the left side of the arrow behind it. -/
theorem Reads.before {tokens rest : List HostToken} {type : HostType} {tail? : Option HostType}
    (front : Reads .application tokens type) (follows : Follows rest tail?) :
    Reads .loose (tokens ++ rest) (type.before tail?) := by
  cases follows with
  | nothing =>
    rw [List.append_nil]
    exact .application front
  | arrow behind => exact .arrow front behind

/-- A constructor in front of an atom is applied to it. -/
theorem Reads.constructor_apply {tokens : List HostToken} {type : HostType} (name : String)
    (argument : Reads .atom tokens type) :
    Reads .application (.constructor name :: tokens) (.apply (.constructor name) type) :=
  .apply (.atom (.constructor name)) argument

end HostType

namespace CType

section Reading

variable (hostName : String → String) (anyPointer : Bool)

mutual

/-- The Haskell type that a type is meant to be rendered as: a pointer is applied to its target,
and a function takes one argument for each of its parameters, in order, and ends in `IO`. -/
def hostType : CType → (fresh : Nat) → HostType
  | .scalar leaf, _ => .constructor leaf.haskellName
  | .named name, _ => .constructor (hostName name)
  | .pointer pointee, fresh =>
    if pointee.isPlainChar then .constructor "CString"
    else
      let target :=
        if pointee.isVoid && anyPointer then .variable (typeVariable fresh)
        else pointee.hostType fresh
      .apply (.constructor (if pointee.isFunction then "FunPtr" else "Ptr")) target
  | .function result parameters, fresh =>
    let later := fresh + variablesFor anyPointer (voidPointersAll parameters)
    .arrows (argumentTypes parameters fresh) (.apply (.constructor "IO") (result.hostType later))
termination_by structural type => type

/-- The Haskell types of parameters. -/
def argumentTypes : List (Entity CType) → (fresh : Nat) → List HostType
  | [], _ => []
  | ⟨_, type⟩ :: rest, fresh =>
    let later := fresh + variablesFor anyPointer type.voidPointers
    type.hostType fresh :: argumentTypes rest later
termination_by structural parameters => parameters

end

mutual

/-- What the text of a type reads as, in front of an arrow with a right side or on its own. As
a function has no parentheses there, its result is what the arrow belongs to. -/
def readAs : CType → (fresh : Nat) → (tail? : Option HostType) → HostType
  | .scalar leaf, _, tail? => .before (.constructor leaf.haskellName) tail?
  | .named name, _, tail? => .before (.constructor (hostName name)) tail?
  | .pointer pointee, fresh, tail? =>
    if pointee.isPlainChar then .before (.constructor "CString") tail?
    else
      let target :=
        if pointee.isVoid && anyPointer then .variable (typeVariable fresh)
        else pointee.readAs fresh none
      .before (.apply (.constructor (if pointee.isFunction then "FunPtr" else "Ptr")) target) tail?
  | .function result parameters, fresh, tail? =>
    let later := fresh + variablesFor anyPointer (voidPointersAll parameters)
    readArguments parameters fresh
      (.before (.apply (.constructor "IO") (result.readAs later none)) tail?)
termination_by structural type => type

/-- What the text of parameters reads as in front of a type. -/
def readArguments : List (Entity CType) → (fresh : Nat) → (tail : HostType) → HostType
  | [], _, tail => tail
  | ⟨_, type⟩ :: rest, fresh, tail =>
    let later := fresh + variablesFor anyPointer type.voidPointers
    type.readAs fresh (some (readArguments rest later tail))
termination_by structural parameters => parameters

end

end Reading

/-- The number of parameters, if the type is that of a function. -/
def parameterCount : CType → Nat
  | .function _ parameters => parameters.length
  | .scalar _ | .named _ | .pointer _ => 0

/-- Some function in a type takes a function with parameters, and not a pointer to it. -/
inductive HasBareCallback : CType → Prop
  | here {result parameters parameter} (member : parameter ∈ parameters)
      (takesArguments : 0 < parameter.type.parameterCount) :
      HasBareCallback (.function result parameters)
  | pointer {pointee} (inside : HasBareCallback pointee) : HasBareCallback (.pointer pointee)
  | result {result parameters} (inside : HasBareCallback result) :
      HasBareCallback (.function result parameters)
  | parameter {result parameters parameter} (member : parameter ∈ parameters)
      (inside : HasBareCallback parameter.type) : HasBareCallback (.function result parameters)

/-! ## What the tokens read as -/

section Readings

open HostType

variable (hostName : String → String) (anyPointer : Bool)

/-- The target of a pointer is an atom if it is one as an argument. -/
theorem reads_target {pointee : CType} {fresh : Nat}
    (inside : Reads .atom (pointee.hostTokens hostName anyPointer true fresh)
      (pointee.readAs hostName anyPointer fresh none)) :
    Reads .atom
      (if pointee.isVoid && anyPointer then [.variable (typeVariable fresh)]
        else pointee.hostTokens hostName anyPointer true fresh)
      (if pointee.isVoid && anyPointer then .variable (typeVariable fresh)
        else pointee.readAs hostName anyPointer fresh none) := by
  split
  case isTrue => exact .variable (typeVariable fresh)
  case isFalse => exact inside

mutual

/-- As an argument, a type is an atom. -/
theorem reads_argument (type : CType) (fresh : Nat) :
    Reads .atom (type.hostTokens hostName anyPointer true fresh)
      (type.readAs hostName anyPointer fresh none) := by
  match type with
  | .scalar leaf => exact leaf.reads_hostTokens
  | .named name => exact .constructor (hostName name)
  | .pointer pointee =>
    unfold hostTokens readAs
    split
    case isTrue => exact .constructor "CString"
    case isFalse =>
      have target := reads_target hostName anyPointer (reads_argument pointee fresh)
      exact .parentheses (.application (.constructor_apply _ target))
  | .function result parameters =>
    unfold hostTokens readAs
    exact .parentheses (reads_argumentTokens parameters fresh
      (.application (.constructor_apply "IO" (reads_argument result _))))
termination_by structural type

/-- On its own or in front of an arrow, a type may be looser. -/
theorem reads_loose (type : CType) (fresh : Nat) {rest : List HostToken}
    {tail? : Option HostType} (follows : Follows rest tail?) :
    Reads .loose (type.hostTokens hostName anyPointer false fresh ++ rest)
      (type.readAs hostName anyPointer fresh tail?) := by
  match type with
  | .scalar leaf => exact (Reads.atom leaf.reads_hostTokens).before follows
  | .named name => exact (Reads.atom (.constructor (hostName name))).before follows
  | .pointer pointee =>
    unfold hostTokens readAs
    split
    case isTrue => exact (Reads.atom (.constructor "CString")).before follows
    case isFalse =>
      have target := reads_target hostName anyPointer (reads_argument pointee fresh)
      exact (Reads.constructor_apply _ target).before follows
  | .function result parameters =>
    unfold hostTokens readAs
    rw [enclosed, if_neg Bool.false_ne_true, List.append_assoc]
    -- An arrow behind the function is read as one behind its result.
    exact reads_argumentTokens parameters fresh
      ((Reads.constructor_apply "IO" (reads_argument result _)).before follows)
termination_by structural type

/-- Parameters stand in front of what is behind them. -/
theorem reads_argumentTokens (parameters : List (Entity CType)) (fresh : Nat)
    {rest : List HostToken} {tail : HostType} (behind : Reads .loose rest tail) :
    Reads .loose (argumentTokens hostName anyPointer parameters fresh ++ rest)
      (readArguments hostName anyPointer parameters fresh tail) := by
  match parameters with
  | [] => exact behind
  | ⟨_, type⟩ :: others =>
    unfold argumentTokens readArguments
    rw [List.append_assoc]
    exact reads_loose type fresh (.arrow (reads_argumentTokens others _ behind))
termination_by structural parameters

end

/-! ## When a text reads as intended -/

mutual

/-- The arrow behind a type has an argument at least, and another one for each parameter of a
function. -/
theorem arity_readAs (type : CType) (fresh : Nat) (tail : HostType) :
    tail.arity + 1 + type.parameterCount ≤
      (type.readAs hostName anyPointer fresh (some tail)).arity := by
  match type with
  | .scalar leaf => exact Nat.le_refl _
  | .named name => exact Nat.le_refl _
  | .pointer pointee =>
    unfold readAs
    split <;> exact Nat.le_refl _
  | .function result parameters =>
    exact arity_readArguments parameters fresh (HostType.before _ (some tail))
termination_by structural type

/-- Parameters are arguments at least. -/
theorem arity_readArguments (parameters : List (Entity CType)) (fresh : Nat) (tail : HostType) :
    tail.arity + parameters.length ≤
      (readArguments hostName anyPointer parameters fresh tail).arity := by
  match parameters with
  | [] => exact Nat.le_refl _
  | ⟨_, type⟩ :: rest =>
    let later := fresh + variablesFor anyPointer type.voidPointers
    have first := arity_readAs type fresh (readArguments hostName anyPointer rest later tail)
    have others := arity_readArguments rest later tail
    calc
      tail.arity + (rest.length + 1) ≤
          (readArguments hostName anyPointer rest later tail).arity + 1 + type.parameterCount := by
        omega
      _ ≤ _ := first
termination_by structural parameters

end

/-- In front of an arrow, what takes no parameters reads as on its own. -/
theorem readAs_some_of_parameterCount_eq_zero {type : CType}
    (noParameters : type.parameterCount = 0) (fresh : Nat) (tail : HostType) :
    type.readAs hostName anyPointer fresh (some tail) =
      .arrow (type.readAs hostName anyPointer fresh none) tail := by
  cases type with
  | scalar leaf => rfl
  | named name => rfl
  | pointer pointee =>
    unfold readAs
    split <;> rfl
  | function result parameters =>
    obtain rfl : parameters = [] := List.eq_nil_of_length_eq_zero noParameters
    rfl

@[simp] theorem arity_arrows (arguments : List HostType) (result : HostType) :
    (arrows arguments result).arity = result.arity + arguments.length := by
  induction arguments with
  | nil => rfl
  | cons argument rest inductionHypothesis =>
    rw [List.length_cons, ← Nat.add_assoc, ← inductionHypothesis]
    rfl

theorem length_argumentTypes (parameters : List (Entity CType)) (fresh : Nat) :
    (argumentTypes hostName anyPointer parameters fresh).length = parameters.length := by
  match parameters with
  | [] => rfl
  | ⟨_, type⟩ :: rest =>
    unfold argumentTypes
    rw [List.length_cons, List.length_cons, length_argumentTypes]

/-- The parameters that take no parameters themselves are as many as the arguments that are
read. -/
theorem parameterCount_eq_zero_of_arity {parameters : List (Entity CType)} {fresh : Nat}
    {tail : HostType}
    (asMany : (readArguments hostName anyPointer parameters fresh tail).arity =
      tail.arity + parameters.length) :
    ∀ parameter ∈ parameters, parameter.type.parameterCount = 0 := by
  induction parameters generalizing fresh with
  | nil => exact List.forall_mem_nil _
  | cons first rest inductionHypothesis =>
    let later := fresh + variablesFor anyPointer first.type.voidPointers
    have firstArity := arity_readAs hostName anyPointer first.type fresh
      (readArguments hostName anyPointer rest later tail)
    have restArity := arity_readArguments hostName anyPointer rest later tail
    have split : readArguments hostName anyPointer (first :: rest) fresh tail =
      first.type.readAs hostName anyPointer fresh
        (some (readArguments hostName anyPointer rest later tail)) := rfl
    rw [split, List.length_cons] at asMany
    exact List.forall_mem_cons.mpr ⟨by omega, @inductionHypothesis later (by omega)⟩

/-- In front of an arrow, parameters that take no parameters are one argument each. They read as
intended if their types do. -/
theorem readArguments_eq_arrows_iff {parameters : List (Entity CType)}
    (noParameters : ∀ parameter ∈ parameters, parameter.type.parameterCount = 0)
    (asIntended : ∀ parameter ∈ parameters, ∀ fresh,
      parameter.type.readAs hostName anyPointer fresh none =
          parameter.type.hostType hostName anyPointer fresh ↔
        ¬ parameter.type.HasBareCallback)
    (fresh : Nat) (tail result : HostType) :
    readArguments hostName anyPointer parameters fresh tail =
        arrows (argumentTypes hostName anyPointer parameters fresh) result ↔
      (∀ parameter ∈ parameters, ¬ parameter.type.HasBareCallback) ∧ tail = result := by
  induction parameters generalizing fresh with
  | nil => simp [readArguments, argumentTypes, arrows]
  | cons first rest inductionHypothesis =>
    obtain ⟨firstTakesNone, restTakeNone⟩ := List.forall_mem_cons.mp noParameters
    obtain ⟨firstAsIntended, restAsIntended⟩ := List.forall_mem_cons.mp asIntended
    let later := fresh + variablesFor anyPointer first.type.voidPointers
    have behind := inductionHypothesis restTakeNone restAsIntended later
    calc
      readArguments hostName anyPointer (first :: rest) fresh tail =
            arrows (argumentTypes hostName anyPointer (first :: rest) fresh) result ↔
          HostType.arrow (first.type.readAs hostName anyPointer fresh none)
              (readArguments hostName anyPointer rest later tail) =
            .arrow (first.type.hostType hostName anyPointer fresh)
              (arrows (argumentTypes hostName anyPointer rest later) result) := by
        rw [← readAs_some_of_parameterCount_eq_zero hostName anyPointer firstTakesNone]
        rfl
      _ ↔ ¬ first.type.HasBareCallback ∧
          (∀ parameter ∈ rest, ¬ parameter.type.HasBareCallback) ∧ tail = result := by
        rw [HostType.arrow.injEq, firstAsIntended fresh, behind]
      _ ↔ _ := by rw [List.forall_mem_cons, and_assoc]

/-- A pointer reads as intended if its target does. -/
theorem readAs_pointer_eq_iff (pointee : CType) (fresh : Nat) :
    (pointer pointee).readAs hostName anyPointer fresh none =
        (pointer pointee).hostType hostName anyPointer fresh ↔
      pointee.readAs hostName anyPointer fresh none =
        pointee.hostType hostName anyPointer fresh := by
  cases pointee with
  | scalar leaf => exact iff_of_true rfl rfl
  | named name => exact iff_of_true rfl rfl
  | pointer pointee =>
    exact (HostType.apply.injEq ..).to_iff.trans (and_iff_right rfl)
  | function result parameters =>
    exact (HostType.apply.injEq ..).to_iff.trans (and_iff_right rfl)

/-- A function whose text reads as intended takes no functions with parameters. -/
theorem parameterCount_eq_zero_of_readAs_eq {result : CType} {parameters : List (Entity CType)}
    {fresh : Nat}
    (asIntended : (function result parameters).readAs hostName anyPointer fresh none =
      (function result parameters).hostType hostName anyPointer fresh) :
    ∀ parameter ∈ parameters, parameter.type.parameterCount = 0 := by
  let later := fresh + variablesFor anyPointer (voidPointersAll parameters)
  let returned : HostType :=
    .apply (.constructor "IO") (result.readAs hostName anyPointer later none)
  -- The intended type has an argument for each parameter, and one more would be read for each
  -- parameter of a parameter.
  have asMany : (readArguments hostName anyPointer parameters fresh returned).arity =
      returned.arity + parameters.length :=
    calc
      _ = ((function result parameters).hostType hostName anyPointer fresh).arity :=
        congrArg arity asIntended
      _ = 0 + (argumentTypes hostName anyPointer parameters fresh).length := arity_arrows _ _
      _ = 0 + parameters.length := by rw [length_argumentTypes]
  exact parameterCount_eq_zero_of_arity hostName anyPointer asMany

/-- A function reads as intended if it takes no functions with parameters and the types in it
read as intended. -/
theorem readAs_function_eq_iff {result : CType} {parameters : List (Entity CType)}
    (resultAsIntended : ∀ fresh, result.readAs hostName anyPointer fresh none =
      result.hostType hostName anyPointer fresh ↔ ¬ result.HasBareCallback)
    (asIntended : ∀ parameter ∈ parameters, ∀ fresh,
      parameter.type.readAs hostName anyPointer fresh none =
          parameter.type.hostType hostName anyPointer fresh ↔
        ¬ parameter.type.HasBareCallback)
    (noParameters : ∀ parameter ∈ parameters, parameter.type.parameterCount = 0) (fresh : Nat) :
    (function result parameters).readAs hostName anyPointer fresh none =
        (function result parameters).hostType hostName anyPointer fresh ↔
      (∀ parameter ∈ parameters, ¬ parameter.type.HasBareCallback) ∧
        ¬ result.HasBareCallback := by
  unfold readAs hostType
  rw [readArguments_eq_arrows_iff hostName anyPointer noParameters asIntended]
  exact and_congr_right fun _ =>
    ((HostType.apply.injEq ..).to_iff.trans (and_iff_right rfl)).trans (resultAsIntended _)

/-- A type reads as intended unless some function in it takes a function with parameters. -/
theorem readAs_eq_hostType_iff (type : CType) (fresh : Nat) :
    type.readAs hostName anyPointer fresh none = type.hostType hostName anyPointer fresh ↔
      ¬ type.HasBareCallback := by
  induction type using CType.induction generalizing fresh with
  | scalar leaf => exact iff_of_true rfl nofun
  | named name => exact iff_of_true rfl nofun
  | pointer pointee inductionHypothesis =>
    have inside : (CType.pointer pointee).HasBareCallback ↔ pointee.HasBareCallback :=
      ⟨fun | .pointer inside => inside, .pointer⟩
    rw [inside, ← inductionHypothesis fresh, readAs_pointer_eq_iff]
  | function result parameters resultHypothesis parametersHypothesis =>
    constructor
    · intro asIntended
      have noParameters := parameterCount_eq_zero_of_readAs_eq hostName anyPointer asIntended
      obtain ⟨noneInside, noneBehind⟩ := (readAs_function_eq_iff hostName anyPointer
        resultHypothesis parametersHypothesis noParameters fresh).mp asIntended
      intro bare
      cases bare with
      | here member takesArguments =>
        exact absurd (noParameters _ member) (Nat.ne_of_gt takesArguments)
      | result inside => exact noneBehind inside
      | parameter member inside => exact noneInside _ member inside
    · intro noneBare
      have noParameters : ∀ parameter ∈ parameters, parameter.type.parameterCount = 0 :=
        fun parameter member =>
          Nat.eq_zero_of_not_pos fun takesArguments => noneBare (.here member takesArguments)
      exact (readAs_function_eq_iff hostName anyPointer resultHypothesis parametersHypothesis
        noParameters fresh).mpr
          ⟨fun _ member inside => noneBare (.parameter member inside),
            fun inside => noneBare (.result inside)⟩

end Readings

end CType

/-- A state of rendering in which every name in a type becomes the name of a type. -/
structure RenderState.NamesTypes (state : RenderState) (type : CType) : Prop where
  recalls : state.resolver.Recalls
  isTypeName : ∀ name, type.Mentions name →
    isTypeName (state.resolver.hostName .type name) = true

namespace Render

/-- The text of a type has its tokens. -/
theorem lexes_typeText {state : RenderState} {type : CType} (names : state.NamesTypes type)
    (anyPointer isArgument : Bool) :
    Lexes ((typeText anyPointer type isArgument).run state).1
      (type.hostTokens (state.resolver.hostName .type) anyPointer isArgument state.fresh) := by
  have run := yields_typeText anyPointer type isArgument state.fresh state
    names.recalls.answersLike rfl rfl
  rw [run]
  exact type.lexes_hostText anyPointer
    (fun name member => names.isTypeName name (type.mem_shownNames_iff.mp member)) isArgument _

/-- The text of a type is read. -/
theorem parse_hostTokens (hostName : String → String) (anyPointer : Bool) (type : CType)
    (isArgument : Bool) (fresh : Nat) :
    HostType.parse (type.hostTokens hostName anyPointer isArgument fresh) =
      some (type.readAs hostName anyPointer fresh none) := by
  rw [HostType.parse_eq_some_iff]
  cases isArgument with
  | true => exact .application (.atom (type.reads_argument hostName anyPointer fresh))
  | false =>
    have reads := type.reads_loose hostName anyPointer fresh .nothing
    rwa [List.append_nil] at reads

/-- The text of a type always reads as a type, as an atom if it is meant as an argument, and its
variables are the next ones, each of them once. It reads as the intended type unless some
function in it takes a function with parameters and not a pointer to it. Of types without such
functions, no two have the same text if they are not intended to be the same, wherever and however
they are rendered. -/
theorem typeText_reads_as_intended_iff (state : RenderState) (type : CType)
    (names : state.NamesTypes type) (anyPointer isArgument : Bool) :
    let text := ((typeText anyPointer type isArgument).run state).1
    let intended := type.hostType (state.resolver.hostName .type) anyPointer state.fresh
    ∃ tokens tree,
      lex text = some tokens ∧ HostType.parse tokens = some tree ∧
      (isArgument = true → HostType.Reads .atom tokens tree) ∧
      variableNames tokens = CType.nextVariables state.fresh
        (CType.variablesFor anyPointer type.voidPointers) ∧
      (variableNames tokens).Nodup ∧
      (tree = intended ↔ ¬ type.HasBareCallback) ∧
      ∀ (otherState : RenderState) (other : CType), otherState.NamesTypes other →
        ∀ otherMode otherIsArgument,
          ((typeText otherMode other otherIsArgument).run otherState).1 = text →
          ¬ type.HasBareCallback → ¬ other.HasBareCallback →
          other.hostType (otherState.resolver.hostName .type) otherMode otherState.fresh =
            intended := by
  intro text intended
  let hostName := state.resolver.hostName .type
  have lexed : lex text = some (type.hostTokens hostName anyPointer isArgument state.fresh) :=
    (lexes_typeText names anyPointer isArgument).lex_eq
  have parsed := parse_hostTokens hostName anyPointer type isArgument state.fresh
  have asIntended := type.readAs_eq_hostType_iff hostName anyPointer state.fresh
  have taken := type.variableNames_hostTokens hostName anyPointer isArgument state.fresh
  refine ⟨_, _, lexed, parsed, ?atomic, taken, ?distinct, asIntended, ?unique⟩
  case atomic =>
    rintro rfl
    exact type.reads_argument hostName anyPointer state.fresh
  case distinct =>
    rw [taken]
    exact CType.nodup_nextVariables _ _
  case unique =>
    intro otherState other otherNames otherMode otherIsArgument same noneBare noneBareInOther
    let otherName := otherState.resolver.hostName .type
    have otherLexed := (lexes_typeText otherNames otherMode otherIsArgument).lex_eq
    rw [same, lexed, Option.some.injEq] at otherLexed
    have otherParsed := parse_hostTokens otherName otherMode other otherIsArgument otherState.fresh
    rw [← otherLexed, parsed, Option.some.injEq] at otherParsed
    calc
      other.hostType otherName otherMode otherState.fresh =
          other.readAs otherName otherMode otherState.fresh none :=
        ((other.readAs_eq_hostType_iff otherName otherMode otherState.fresh).mpr
          noneBareInOther).symm
      _ = type.readAs hostName anyPointer state.fresh none := otherParsed.symm
      _ = intended := asIntended.mpr noneBare

/-- A pointer to a function that takes a queue of events and a pointer to a function, and returns
a pointer to anything, as an argument behind the variable `y`. -/
theorem handler_pointer_reads_as_intended :
    let state : RenderState := { resolver := .new "Window" {} none .none .flat, fresh := 25 }
    let callback : CType := .pointer (.function .void [⟨"", .pointer .void⟩])
    let handler : CType := .pointer
      (.function (.pointer .void) [⟨"", .pointer (.named "event_queue")⟩, ⟨"", callback⟩])
    state.NamesTypes handler ∧ ¬ handler.HasBareCallback ∧
      (lex ((typeText true handler true).run state).1).bind HostType.parse =
        some (handler.hostType (state.resolver.hostName .type) true 25) := by
  intro state callback handler
  have names : state.NamesTypes handler := by
    refine ⟨Resolver.recalls_new _ _ _ _ _, fun name mentions => ?_⟩
    have isQueue : name = "event_queue" := by
      have shown := handler.mem_shownNames_iff.mpr mentions
      exact List.mem_singleton.mp shown
    subst isQueue
    decide
  have noneBare : ¬ handler.HasBareCallback :=
    (handler.readAs_eq_hostType_iff id true 0).mp rfl
  obtain ⟨tokens, tree, lexed, parsed, -, -, -, asIntended, -⟩ :=
    typeText_reads_as_intended_iff state handler names true true
  refine ⟨names, noneBare, ?_⟩
  rw [lexed, Option.bind_some, parsed, asIntended.mpr noneBare]

/-- A function that takes a function of an integer is rendered as one that takes the integer and
a function. -/
theorem function_parameter_misread :
    let state : RenderState := { resolver := .new "Window" {} none .none .flat }
    let int : CType := .scalar ⟨.signed, .int, .unsized⟩
    let takesCallback : CType := .function .void [⟨"", .function .void [⟨"", int⟩]⟩]
    let takesBoth : CType := .function .void [⟨"", int⟩, ⟨"", .function .void []⟩]
    let text (type : CType) := ((typeText true type false).run state).1
    let intended (type : CType) := type.hostType (state.resolver.hostName .type) true 0
    SourceType.lower {} .unknown
        (.prototype .c (.builtin .void) [.prototype .c (.builtin .void) [.builtin .int]]) =
      .ok takesCallback ∧
    SourceType.lower {} .unknown
        (.prototype .c (.builtin .void) [.builtin .int, .prototype .c (.builtin .void) []]) =
      .ok takesBoth ∧
    state.NamesTypes takesCallback ∧
    text takesCallback = text takesBoth ∧ intended takesCallback ≠ intended takesBoth ∧
    (lex (text takesCallback)).bind HostType.parse ≠ some (intended takesCallback) := by
  intro state int takesCallback takesBoth text intended
  have names : state.NamesTypes takesCallback :=
    ⟨Resolver.recalls_new _ _ _ _ _,
      fun name mentions => nomatch takesCallback.mem_shownNames_iff.mpr mentions⟩
  exact ⟨rfl, rfl, names, rfl, by decide, by decide⟩

end Render

end ForeignBindings
