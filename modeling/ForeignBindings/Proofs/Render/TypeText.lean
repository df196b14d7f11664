import ForeignBindings.Proofs.Render.Trace
import ForeignBindings.Render.TypeText

/-!
# What rendering a type does

Rendering a type reads the state only for the names of types and for the type variables that
are free. `CType.hostText` is the text that it yields, as a function of both, and
`CType.shownNames` are the names that it asks for, in order. It takes a type variable for
each pointer to void: `Render.yields_typeText`. A field takes variables of its own and none
from outside: `Render.yields_fieldText`.
-/

namespace ForeignBindings

namespace CType

mutual

/-- The number of pointers to void in a type. -/
def voidPointers : CType → Nat
  | .scalar _ | .named _ => 0
  | .pointer pointee => if pointee.isVoid then 1 else pointee.voidPointers
  | .function result parameters => voidPointersAll parameters + result.voidPointers
termination_by structural type => type

/-- The number of pointers to void in the types of parameters. -/
def voidPointersAll : List (Entity CType) → Nat
  | [] => 0
  | ⟨_, type⟩ :: rest => type.voidPointers + voidPointersAll rest
termination_by structural parameters => parameters

end

/-- The number of type variables that pointers to void take, where they take any. -/
def variablesFor (anyPointer : Bool) (voidPointers : Nat) : Nat :=
  if anyPointer then voidPointers else 0

theorem variablesFor_add (anyPointer : Bool) (first second : Nat) :
    variablesFor anyPointer (first + second) =
      variablesFor anyPointer first + variablesFor anyPointer second := by
  cases anyPointer <;> rfl

@[simp] theorem variablesFor_zero (anyPointer : Bool) : variablesFor anyPointer 0 = 0 := by
  cases anyPointer <;> rfl

mutual

/-- The names in the text of a type, from left to right: those of the parameters of a function
before those of its result. -/
def shownNames : CType → List String
  | .scalar _ => []
  | .pointer pointee => pointee.shownNames
  | .named name => [name]
  | .function result parameters => shownNamesAll parameters ++ result.shownNames
termination_by structural type => type

/-- The names in the text of parameters. -/
def shownNamesAll : List (Entity CType) → List String
  | [] => []
  | ⟨_, type⟩ :: rest => type.shownNames ++ shownNamesAll rest
termination_by structural parameters => parameters

end

mutual

/-- The names in the text of a type are those that the type mentions. -/
theorem shownNames_perm (type : CType) : type.shownNames.Perm type.mentionedNames := by
  match type with
  | .scalar _ => exact .refl _
  | .named _ => exact .refl _
  | .pointer pointee => exact shownNames_perm pointee
  | .function result parameters =>
    exact ((shownNamesAll_perm parameters).append (shownNames_perm result)).trans
      List.perm_append_comm
termination_by structural type

/-- The names in the text of parameters are those that their types mention. -/
theorem shownNamesAll_perm (parameters : List (Entity CType)) :
    (shownNamesAll parameters).Perm (mentionedNamesAll parameters) := by
  match parameters with
  | [] => exact .refl _
  | ⟨_, type⟩ :: rest => exact (shownNames_perm type).append (shownNamesAll_perm rest)
termination_by structural parameters

end

section Text

variable (hostName : String → String) (anyPointer : Bool)

mutual

/-- The text of a type, in which a pointer to void gets the next type variable after the
`fresh` ones that are taken. -/
def hostText : CType → (isArgument : Bool) → (fresh : Nat) → String
  | .scalar leaf, _, _ => leaf.haskellName
  | .named name, _, _ => hostName name
  | .pointer pointee, isArgument, fresh =>
    if pointee.isPlainChar then "CString"
    else
      let target :=
        if pointee.isVoid && anyPointer then typeVariable fresh
        else pointee.hostText true fresh
      let constructor := if pointee.isFunction then "FunPtr " else "Ptr "
      parenthesized isArgument (constructor ++ target)
  | .function result parameters, isArgument, fresh =>
    let later := fresh + variablesFor anyPointer (voidPointersAll parameters)
    parenthesized isArgument (hostArguments parameters fresh ++ "IO " ++ result.hostText true later)
termination_by structural type => type

/-- The text of parameters, each with the arrow behind it. -/
def hostArguments : List (Entity CType) → (fresh : Nat) → String
  | [], _ => ""
  | ⟨_, type⟩ :: rest, fresh =>
    let later := fresh + variablesFor anyPointer type.voidPointers
    type.hostText false fresh ++ " -> " ++ hostArguments rest later
termination_by structural parameters => parameters

end

end Text

section Variables

variable (hostName : String → String) (anyPointer : Bool)

mutual

/-- The text of a type without pointers to void shows no type variables. -/
theorem hostText_of_voidPointers_eq_zero (type : CType)
    (noPointers : type.voidPointers = 0) (isArgument : Bool) (fresh other : Nat) :
    type.hostText hostName anyPointer isArgument fresh =
      type.hostText hostName anyPointer isArgument other := by
  match type with
  | .scalar _ => rfl
  | .named _ => rfl
  | .pointer pointee =>
    unfold voidPointers at noPointers
    split at noPointers
    case isTrue => cases noPointers
    case isFalse notVoid =>
      unfold hostText
      simp only [notVoid, Bool.false_and, Bool.false_eq_true, if_false,
        hostText_of_voidPointers_eq_zero pointee noPointers true fresh other]
  | .function result parameters =>
    unfold voidPointers at noPointers
    obtain ⟨noneBefore, noneInside⟩ := Nat.add_eq_zero_iff.mp noPointers
    unfold hostText
    simp only [noneBefore, variablesFor_zero, Nat.add_zero,
      hostArguments_of_voidPointers_eq_zero parameters noneBefore fresh other,
      hostText_of_voidPointers_eq_zero result noneInside true fresh other]
termination_by structural type

/-- The text of parameters without pointers to void shows no type variables. -/
theorem hostArguments_of_voidPointers_eq_zero (parameters : List (Entity CType))
    (noPointers : voidPointersAll parameters = 0) (fresh other : Nat) :
    hostArguments hostName anyPointer parameters fresh =
      hostArguments hostName anyPointer parameters other := by
  match parameters with
  | [] => rfl
  | ⟨_, type⟩ :: rest =>
    unfold voidPointersAll at noPointers
    obtain ⟨noneFirst, noneBehind⟩ := Nat.add_eq_zero_iff.mp noPointers
    unfold hostArguments
    simp only [noneFirst, variablesFor_zero, Nat.add_zero,
      hostText_of_voidPointers_eq_zero type noneFirst false fresh other,
      hostArguments_of_voidPointers_eq_zero rest noneBehind fresh other]
termination_by structural parameters

end

end Variables

/-- The text of the type of a record field, whose variables are its own and quantified in
place. -/
def hostFieldText (hostName : String → String) (options : RenderOptions) (type : CType) :
    String :=
  let count := variablesFor options.quantifiesFields type.voidPointers
  let body := type.hostText hostName options.quantifiesFields false 0
  if count = 0 then body else Render.quantifier count ++ body

/-- A scalar has no names in its text. -/
theorem shownNames_of_isVoid {type : CType} (isVoid : type.isVoid = true) :
    type.shownNames = [] := by
  cases type with
  | scalar leaf => rfl
  | pointer pointee => cases isVoid
  | named name => cases isVoid
  | function result parameters => cases isVoid

theorem shownNames_of_isPlainChar {type : CType} (isPlainChar : type.isPlainChar = true) :
    type.shownNames = [] := by
  cases type with
  | scalar leaf => rfl
  | pointer pointee => cases isPlainChar
  | named name => cases isPlainChar
  | function result parameters => cases isPlainChar

/-- A pointer to plain `char` contains no pointer to void. -/
theorem voidPointers_pointer_of_isPlainChar {pointee : CType}
    (isPlainChar : pointee.isPlainChar = true) : (pointer pointee).voidPointers = 0 := by
  cases pointee with
  | scalar leaf =>
    have isChar : leaf = .plainChar := by
      simpa [CType.isPlainChar, Scalar.isPlainChar] using isPlainChar
    subst isChar
    rfl
  | pointer pointee => cases isPlainChar
  | named name => cases isPlainChar
  | function result parameters => cases isPlainChar

end CType

namespace Render

/-- The events that ask for the names of types. -/
def typeRequests (names : List String) : List Event :=
  names.map fun name => .ask ⟨.type, .unscoped name⟩

theorem typeRequests_append (first second : List String) :
    typeRequests (first ++ second) = typeRequests first ++ typeRequests second :=
  List.map_append

variable {reference : Resolver} {depth : Nat}

/-- What a step yields may be put in another form. -/
theorem Yields.of_eq {α : Type} {step : Render α} {fresh later otherLater : Nat}
    {value otherValue : α} {lines : List String} {events otherEvents : List Event}
    (yields : Yields reference depth step fresh value lines events later)
    (sameValue : value = otherValue) (sameEvents : events = otherEvents)
    (sameLater : later = otherLater) :
    Yields reference depth step fresh otherValue lines otherEvents otherLater := by
  subst sameValue sameEvents sameLater
  exact yields

mutual

/-- Rendering a type yields its text, asks for the names in it, and takes a type variable for
each pointer to void. -/
theorem yields_typeText (anyPointer : Bool) (type : CType) (isArgument : Bool) (fresh : Nat) :
    Yields reference depth (typeText anyPointer type isArgument) fresh
      (type.hostText (reference.hostName .type) anyPointer isArgument fresh) []
      (typeRequests type.shownNames)
      (fresh + CType.variablesFor anyPointer type.voidPointers) := by
  match type with
  | .scalar leaf =>
    exact (yields_pure leaf.haskellName).of_eq rfl rfl (by simp [CType.voidPointers])
  | .named name =>
    exact (yields_nameOf .type (.unscoped name)).of_eq rfl rfl (by simp [CType.voidPointers])
  | .pointer pointee =>
    unfold typeText CType.hostText CType.shownNames
    split
    case isTrue isPlainChar =>
      rw [CType.shownNames_of_isPlainChar isPlainChar,
        CType.voidPointers_pointer_of_isPlainChar isPlainChar, CType.variablesFor_zero]
      exact yields_pure "CString"
    case isFalse =>
      -- A pointer to void takes a variable itself if there are any; else its target is rendered.
      let around := fun target => parenthesized isArgument
        ((if pointee.isFunction then "FunPtr " else "Ptr ") ++ target)
      unfold CType.voidPointers
      dsimp only
      split
      case isTrue isAny =>
        obtain ⟨isVoid, any⟩ := Bool.and_eq_true_iff.mp isAny
        rw [CType.shownNames_of_isVoid isVoid, if_pos isVoid, any]
        exact yields_freshVariable.map around
      case isFalse notAny =>
        refine ((yields_typeText anyPointer pointee true fresh).map around).of_eq rfl rfl ?_
        split
        case isTrue isVoid =>
          have noVariables : anyPointer = false := by simpa [isVoid] using notAny
          rw [noVariables]
          rfl
        case isFalse => rfl
  | .function result parameters =>
    unfold typeText CType.hostText CType.shownNames CType.voidPointers
    refine ((yields_argumentsText anyPointer parameters fresh).bind
      ((yields_typeText anyPointer result true _).map fun result =>
        parenthesized isArgument (_ ++ "IO " ++ result))).of_eq rfl ?_ ?_
    · rw [typeRequests_append]
    · rw [CType.variablesFor_add, Nat.add_assoc]
termination_by structural type

/-- Rendering parameters yields their text and asks for the names in it. -/
theorem yields_argumentsText (anyPointer : Bool) (parameters : List (Entity CType))
    (fresh : Nat) :
    Yields reference depth (argumentsText anyPointer parameters) fresh
      (CType.hostArguments (reference.hostName .type) anyPointer parameters fresh) []
      (typeRequests (CType.shownNamesAll parameters))
      (fresh + CType.variablesFor anyPointer (CType.voidPointersAll parameters)) := by
  match parameters with
  | [] => exact (yields_pure "").of_eq rfl rfl (by simp [CType.voidPointersAll])
  | ⟨_, type⟩ :: rest =>
    unfold argumentsText CType.hostArguments CType.shownNamesAll CType.voidPointersAll
    refine ((yields_typeText anyPointer type false fresh).bind
      ((yields_argumentsText anyPointer rest _).map fun others =>
        _ ++ " -> " ++ others)).of_eq rfl ?_ ?_
    · rw [typeRequests_append]
    · rw [CType.variablesFor_add, Nat.add_assoc]
termination_by structural parameters

end

/-- Rendering the type of a field yields its text and asks for the names in it. It neither
sees nor leaves any type variables. -/
theorem yields_fieldText (options : RenderOptions) (type : CType) (fresh : Nat) :
    Yields reference depth (fieldText options type) fresh
      (type.hostFieldText (reference.hostName .type) options) []
      (typeRequests type.shownNames) 0 := by
  refine (yields_resetFresh.bind ((yields_typeText options.quantifiesFields type false 0).bind
    (yields_resetFresh.map fun count => if count = 0 then _ else quantifier count ++ _))).of_eq
    ?_ (List.append_nil _) rfl
  unfold CType.hostFieldText
  rw [Nat.zero_add]

end Render

end ForeignBindings
