import ForeignBindings.Scalar

/-!
# C types

The closed type model that bindings are generated from: scalars, pointers, types
known by name only, and function signatures. A type is a finite tree, so no two
types share structure and no type contains itself.
-/

namespace ForeignBindings

/-- A name with a type: a parameter, a field, a function or a variable. -/
structure Entity (type : Type) where
  name : String
  type : type
deriving DecidableEq, Repr, Inhabited

/-- A C type. -/
inductive CType where
  | scalar (scalar : Scalar)
  | pointer (pointee : CType)
  /-- A struct, an enum or a template instance, by name. The name stays empty
  until an enclosing typedef supplies one. -/
  | named (name : String)
  /-- A function. The names of its parameters are kept but mean nothing. -/
  | function (result : CType) (parameters : List (Entity CType))
deriving Repr, Inhabited

namespace CType

/-- What holds of a type if it holds of the types that it is made of holds of all types. -/
@[elab_as_elim]
theorem induction {motive : CType → Prop} (scalar : ∀ leaf, motive (.scalar leaf))
    (pointer : ∀ pointee, motive pointee → motive (.pointer pointee))
    (named : ∀ name, motive (.named name))
    (function : ∀ result parameters, motive result →
      (∀ parameter ∈ parameters, motive parameter.type) → motive (.function result parameters))
    (type : CType) : motive type :=
  @CType.rec motive (fun parameters => ∀ parameter ∈ parameters, motive parameter.type)
    (fun parameter => motive parameter.type) scalar pointer named function
    (List.forall_mem_nil _) (fun _ _ first others => List.forall_mem_cons.mpr ⟨first, others⟩)
    (fun _ _ type => type) type

mutual

/-- Decides the equality of two types. -/
def decideEq : (left right : CType) → Decidable (left = right)
  | .scalar left, .scalar right => decidable_of_iff (left = right) (by simp)
  | .pointer left, .pointer right =>
    match decideEq left right with
    | isTrue equal => isTrue (by rw [equal])
    | isFalse different => isFalse (by simpa using different)
  | .named left, .named right => decidable_of_iff (left = right) (by simp)
  | .function left leftParameters, .function right rightParameters =>
    match decideEq left right, decideEqAll leftParameters rightParameters with
    | isTrue results, isTrue parameters => isTrue (by rw [results, parameters])
    | isFalse different, _ => isFalse (by simp [different])
    | _, isFalse different => isFalse (by simp [different])
  | .scalar _, .pointer _ | .scalar _, .named _ | .scalar _, .function _ _
  | .pointer _, .scalar _ | .pointer _, .named _ | .pointer _, .function _ _
  | .named _, .scalar _ | .named _, .pointer _ | .named _, .function _ _
  | .function _ _, .scalar _ | .function _ _, .pointer _ | .function _ _, .named _ =>
    isFalse (by simp)
termination_by structural left => left

/-- Decides the equality of two parameter lists. -/
def decideEqAll : (left right : List (Entity CType)) → Decidable (left = right)
  | [], [] => isTrue rfl
  | [], _ :: _ | _ :: _, [] => isFalse (by simp)
  | ⟨leftName, left⟩ :: leftRest, ⟨rightName, right⟩ :: rightRest =>
    match decEq leftName rightName, decideEq left right, decideEqAll leftRest rightRest with
    | isTrue names, isTrue types, isTrue rests => isTrue (by rw [names, types, rests])
    | isFalse different, _, _ => isFalse (by simp [different])
    | _, isFalse different, _ => isFalse (by simp [different])
    | _, _, isFalse different => isFalse (by simp [different])
termination_by structural left => left

end

instance : DecidableEq CType := decideEq

/-- The type of no values. -/
def void : CType := .scalar .void

/-- The scalar that the type is, if it is one. -/
def asScalar? : CType → Option Scalar
  | .scalar leaf => some leaf
  | _ => none

/-- Whether a value of the type can cross the language boundary. The test is
shallow: a pointer qualifies, whatever it points to. -/
def isMarshallable : CType → Bool
  | .scalar _ | .pointer _ => true
  | .named _ | .function _ _ => false

/-- Whether the type is a void scalar. -/
def isVoid : CType → Bool
  | .scalar leaf => leaf.isVoid
  | _ => false

/-- Whether the type is plain `char`. -/
def isPlainChar : CType → Bool
  | .scalar leaf => leaf.isPlainChar
  | _ => false

/-- Whether the type is a function signature. -/
def isFunction : CType → Bool
  | .function _ _ => true
  | _ => false

/-- A pointer to plain `char` is a C string. -/
def isCString : CType → Bool
  | .pointer pointee => pointee.isPlainChar
  | _ => false

mutual

/-- The names of the types that the type mentions, the result of a function
before its parameters; a name is listed as often as it occurs. -/
def mentionedNames : CType → List String
  | .scalar _ => []
  | .pointer pointee => pointee.mentionedNames
  | .named name => [name]
  | .function result parameters => result.mentionedNames ++ mentionedNamesAll parameters
termination_by structural type => type

/-- The names that the types of a parameter list mention. -/
def mentionedNamesAll : List (Entity CType) → List String
  | [] => []
  | ⟨_, type⟩ :: rest => type.mentionedNames ++ mentionedNamesAll rest
termination_by structural parameters => parameters

end

/-- Whether a type without a name occurs in the type, which then cannot be written. -/
def mentionsAnonymous (type : CType) : Bool := type.mentionedNames.contains ""

mutual

/-- A plain notation for diagnostics. -/
def display : CType → String
  | .scalar leaf => leaf.display
  | .pointer pointee => "*" ++ pointee.display
  | .named name => if name = "" then "<anonymous>" else name
  | .function result parameters =>
    "fn(" ++ displayAll parameters ++ ") -> " ++ result.display
termination_by structural type => type

/-- The types of a parameter list, separated by commas. -/
def displayAll : List (Entity CType) → String
  | [] => ""
  | [⟨_, type⟩] => type.display
  | ⟨_, type⟩ :: next :: rest => type.display ++ ", " ++ displayAll (next :: rest)
termination_by structural parameters => parameters

end

end CType

end ForeignBindings
