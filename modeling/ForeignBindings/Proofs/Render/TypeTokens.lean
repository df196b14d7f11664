import ForeignBindings.Proofs.Render.HostTokens
import ForeignBindings.Proofs.Render.References

/-!
# Tokens of rendered types

`CType.hostTokens` are the tokens of the text of a type: `CType.lexes_hostText`. The variables
among them are the next type variables, each of them once: `CType.variableNames_hostTokens`.
-/

namespace ForeignBindings

open HostToken

/-- Tokens in parentheses, if they need them. -/
def HostToken.enclosed (isNeeded : Bool) (tokens : List HostToken) : List HostToken :=
  if isNeeded then .opening :: tokens ++ [.closing] else tokens

theorem HostToken.Lexes.parenthesized {text : String} {tokens : List HostToken}
    (lexes : Lexes text tokens) (isNeeded : Bool) :
    Lexes (parenthesized isNeeded text) (enclosed isNeeded tokens) := by
  cases isNeeded with
  | false => exact lexes
  | true => exact lexes.parentheses

/-- The type variables among tokens, in order. -/
def HostToken.variableNames (tokens : List HostToken) : List String :=
  tokens.filterMap fun
    | .variable name => some name
    | _ => none

theorem HostToken.variableNames_append (first second : List HostToken) :
    variableNames (first ++ second) = variableNames first ++ variableNames second :=
  List.filterMap_append

theorem HostToken.variableNames_constructor (name : String) (tokens : List HostToken) :
    variableNames (.constructor name :: tokens) = variableNames tokens := rfl

theorem HostToken.variableNames_enclosed (isNeeded : Bool) (tokens : List HostToken) :
    variableNames (enclosed isNeeded tokens) = variableNames tokens := by
  cases isNeeded with
  | false => rfl
  | true => simp [enclosed, variableNames]

namespace Scalar

/-- The tokens of the name of a scalar: that of the unit type are parentheses. -/
def hostTokens (leaf : Scalar) : List HostToken :=
  if leaf.haskellName = "()" then [.opening, .closing] else [.constructor leaf.haskellName]

theorem isTypeName_fixedWidthName (isUnsigned : Bool) (width : Width) :
    isTypeName (fixedWidthName isUnsigned width) = true := by
  cases isUnsigned <;> cases width <;> decide

/-- A scalar is the unit type or has a name of its own. -/
theorem haskellName_eq_or_isTypeName (leaf : Scalar) :
    leaf.haskellName = "()" ∨ isTypeName leaf.haskellName = true := by
  obtain ⟨sign, family, width⟩ := leaf
  cases family with
  | void => exact .inl rfl
  | unicodeChar | exact | least | fast => exact .inr (isTypeName_fixedWidthName _ _)
  | bool | wideChar | float | double | pointerDifference | size =>
    simp only [haskellName]
    decide
  | char | short | int | long | longLong => cases sign <;> simp [haskellName] <;> decide
  | special => cases sign <;> cases width <;> decide

/-- The name of a scalar has its tokens. -/
theorem lexes_haskellName (leaf : Scalar) : Lexes leaf.haskellName leaf.hostTokens := by
  unfold hostTokens
  split
  case isTrue isUnit =>
    rw [isUnit]
    have empty : Lexes "" [] := fun rest _ => by simp
    exact empty.parentheses
  case isFalse notUnit =>
    exact lexes_constructor (leaf.haskellName_eq_or_isTypeName.resolve_left notUnit)

theorem variableNames_hostTokens (leaf : Scalar) : variableNames leaf.hostTokens = [] := by
  unfold hostTokens
  split <;> rfl

end Scalar

namespace CType

section Tokens

variable (hostName : String → String) (anyPointer : Bool)

mutual

/-- The tokens of the text of a type. -/
def hostTokens : CType → (isArgument : Bool) → (fresh : Nat) → List HostToken
  | .scalar leaf, _, _ => leaf.hostTokens
  | .named name, _, _ => [.constructor (hostName name)]
  | .pointer pointee, isArgument, fresh =>
    if pointee.isPlainChar then [.constructor "CString"]
    else
      let target :=
        if pointee.isVoid && anyPointer then [.variable (typeVariable fresh)]
        else pointee.hostTokens true fresh
      enclosed isArgument (.constructor (if pointee.isFunction then "FunPtr" else "Ptr") :: target)
  | .function result parameters, isArgument, fresh =>
    let later := fresh + variablesFor anyPointer (voidPointersAll parameters)
    enclosed isArgument
      (argumentTokens parameters fresh ++ .constructor "IO" :: result.hostTokens true later)
termination_by structural type => type

/-- The tokens of the text of parameters. -/
def argumentTokens : List (Entity CType) → (fresh : Nat) → List HostToken
  | [], _ => []
  | ⟨_, type⟩ :: rest, fresh =>
    let later := fresh + variablesFor anyPointer type.voidPointers
    type.hostTokens false fresh ++ .arrow :: argumentTokens rest later
termination_by structural parameters => parameters

end

end Tokens

/-! ## The tokens of a text -/

section Tokens

variable {hostName : String → String} (anyPointer : Bool)

mutual

/-- The text of a type has its tokens. -/
theorem lexes_hostText (type : CType)
    (isProper : ∀ name ∈ type.shownNames, isTypeName (hostName name) = true)
    (isArgument : Bool) (fresh : Nat) :
    Lexes (type.hostText hostName anyPointer isArgument fresh)
      (type.hostTokens hostName anyPointer isArgument fresh) := by
  match type with
  | .scalar leaf => exact leaf.lexes_haskellName
  | .named name => exact lexes_constructor (isProper name (List.mem_singleton_self name))
  | .pointer pointee =>
    unfold hostText hostTokens
    split
    case isTrue => exact lexes_constructor (by decide)
    case isFalse =>
      refine Lexes.parenthesized ?_ isArgument
      have target : Lexes
          (if pointee.isVoid && anyPointer then typeVariable fresh
            else pointee.hostText hostName anyPointer true fresh)
          (if pointee.isVoid && anyPointer then [.variable (typeVariable fresh)]
            else pointee.hostTokens hostName anyPointer true fresh) := by
        split
        case isTrue => exact lexes_typeVariable fresh
        case isFalse => exact lexes_hostText pointee isProper true fresh
      split
      case isTrue =>
        have constructor : Lexes "FunPtr" [.constructor "FunPtr"] := lexes_constructor (by decide)
        exact constructor.blank target
      case isFalse =>
        have constructor : Lexes "Ptr" [.constructor "Ptr"] := lexes_constructor (by decide)
        exact constructor.blank target
  | .function result parameters =>
    unfold shownNames at isProper
    rw [List.forall_mem_append] at isProper
    unfold hostText hostTokens
    refine Lexes.parenthesized ?_ isArgument
    rw [String.append_assoc]
    have constructor : Lexes "IO" [.constructor "IO"] := lexes_constructor (by decide)
    exact lexes_hostArguments parameters isProper.1 fresh
      (constructor.blank (lexes_hostText result isProper.2 true _))
termination_by structural type

/-- The text of parameters has their tokens, in front of a text with tokens. -/
theorem lexes_hostArguments (parameters : List (Entity CType))
    (isProper : ∀ name ∈ shownNamesAll parameters, isTypeName (hostName name) = true)
    (fresh : Nat) {text : String} {tokens : List HostToken} (behind : Lexes text tokens) :
    Lexes (hostArguments hostName anyPointer parameters fresh ++ text)
      (argumentTokens hostName anyPointer parameters fresh ++ tokens) := by
  match parameters with
  | [] =>
    unfold hostArguments argumentTokens
    rwa [String.empty_append]
  | ⟨_, type⟩ :: rest =>
    unfold shownNamesAll at isProper
    rw [List.forall_mem_append] at isProper
    unfold hostArguments argumentTokens
    rw [String.append_assoc, List.append_assoc]
    exact (lexes_hostText type isProper.1 false fresh).arrow
      (lexes_hostArguments rest isProper.2 _ behind)
termination_by structural parameters

end

end Tokens

/-! ## Type variables -/

/-- The type variables that are handed out next. -/
def nextVariables (fresh count : Nat) : List String := (List.range' fresh count).map typeVariable

theorem nextVariables_add (fresh first second : Nat) :
    nextVariables fresh (first + second) =
      nextVariables fresh first ++ nextVariables (fresh + first) second := by
  unfold nextVariables
  rw [← List.map_append, List.range'_append_1]

/-- No type variable is handed out twice. -/
theorem nodup_nextVariables (fresh count : Nat) : (nextVariables fresh count).Nodup :=
  (List.nodup_range').map typeVariable_injective

section Variables

variable (hostName : String → String) (anyPointer : Bool)

mutual

/-- The variables in the text of a type are the next ones, one for each pointer to void. -/
theorem variableNames_hostTokens (type : CType) (isArgument : Bool) (fresh : Nat) :
    variableNames (type.hostTokens hostName anyPointer isArgument fresh) =
      nextVariables fresh (variablesFor anyPointer type.voidPointers) := by
  match type with
  | .scalar leaf =>
    unfold hostTokens voidPointers
    rw [variablesFor_zero]
    exact leaf.variableNames_hostTokens
  | .named name =>
    unfold hostTokens voidPointers
    rw [variablesFor_zero]
    rfl
  | .pointer pointee =>
    unfold hostTokens
    split
    case isTrue isPlainChar =>
      rw [voidPointers_pointer_of_isPlainChar isPlainChar, variablesFor_zero]
      rfl
    case isFalse =>
      rw [variableNames_enclosed, variableNames_constructor]
      unfold voidPointers
      split
      case isTrue isAny =>
        obtain ⟨isVoid, any⟩ := Bool.and_eq_true_iff.mp isAny
        rw [if_pos isVoid, any]
        rfl
      case isFalse notAny =>
        refine (variableNames_hostTokens pointee true fresh).trans ?_
        split
        case isTrue isVoid =>
          have noVariables : anyPointer = false := by simpa [isVoid] using notAny
          rw [noVariables]
          rfl
        case isFalse => rfl
  | .function result parameters =>
    unfold hostTokens voidPointers
    rw [variableNames_enclosed, variableNames_append, variableNames_argumentTokens parameters,
      variablesFor_add, nextVariables_add]
    exact congrArg _ (variableNames_hostTokens result true _)
termination_by structural type

/-- The variables in the text of parameters are the next ones. -/
theorem variableNames_argumentTokens (parameters : List (Entity CType)) (fresh : Nat) :
    variableNames (argumentTokens hostName anyPointer parameters fresh) =
      nextVariables fresh (variablesFor anyPointer (voidPointersAll parameters)) := by
  match parameters with
  | [] =>
    unfold argumentTokens voidPointersAll
    rw [variablesFor_zero]
    rfl
  | ⟨_, type⟩ :: rest =>
    unfold argumentTokens voidPointersAll
    rw [variableNames_append, variableNames_hostTokens type, variablesFor_add, nextVariables_add]
    exact congrArg _ (variableNames_argumentTokens rest _)
termination_by structural parameters

end

end Variables

end CType

end ForeignBindings
