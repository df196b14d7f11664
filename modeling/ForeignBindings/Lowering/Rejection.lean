import ForeignBindings.CType
import ForeignBindings.Declaration
import ForeignBindings.Diagnostic

/-!
# Rejections

A type without a counterpart rejects the declaration that it occurs in. The
rejection says what is wrong and collects, from the inside out, the places that it
passed through. It is reported as one warning with a note for each place.
-/

namespace ForeignBindings

/-- What is wrong with a type. -/
inductive LoweringError where
  | unsupportedBuiltin (name : String)
  | unsupportedReference
  | unsupportedConvention (convention : CallConvention)
  | unknownConstruct (description : String)
  | notMarshallable (type : CType)
deriving DecidableEq, Repr, Inhabited

namespace LoweringError

/-- The code that the error is reported under. -/
def code : LoweringError → Code
  | unsupportedBuiltin _ => .builtinUnsupported
  | unsupportedReference => .referenceUnsupported
  | unsupportedConvention _ => .conventionUnsupported
  | unknownConstruct _ => .constructUnknown
  | notMarshallable _ => .notMarshallable

/-- The error in words. -/
def message : LoweringError → String
  | unsupportedBuiltin name =>
    "type `" ++ name ++ "` is an OpenCL type, a platform extension, or a compiler extension"
  | unsupportedReference => "C++ references (lvalue, rvalue) are not supported"
  | unsupportedConvention convention =>
    "function pointer does not have a C calling convention (found `" ++ convention.name ++ "`)"
  | unknownConstruct description =>
    "type construct `" ++ description ++ "` is not recognized; please report this as a bug"
  | notMarshallable type =>
    "type `" ++ type.display ++ "` is not marshallable (marshallable types: integers, floating " ++
      "points, and pointers)"

end LoweringError

/-- A number as the place in a sequence; the first is `1st`. -/
def ordinal (number : Nat) : String :=
  let teens := 11 ≤ number % 100 && number % 100 ≤ 13
  let ending := match teens, number % 10 with
    | false, 1 => "st"
    | false, 2 => "nd"
    | false, 3 => "rd"
    | _, _ => "th"
  toString number ++ ending

/-- A place that encloses a rejected type. Indices count from zero. -/
inductive Frame where
  | typedefAlias (name : String)
  | prototypeReturn
  | prototypeParameter (index : Nat)
  | parameter (name : String) (index : Nat)
  | variable (name : String)
  | function (name : String)
  | enumUnderlying (name : String)
  | structField (field owner : String)
deriving DecidableEq, Repr, Inhabited

/-- The note that describes a place. -/
def Frame.describe : Frame → String
  | typedefAlias name => "in typedef declaration for type alias `" ++ name ++ "`"
  | prototypeReturn => "in the return type of this function pointer"
  | prototypeParameter index =>
    "in the " ++ ordinal (index + 1) ++ " parameter type of this function pointer"
  | parameter name index =>
    if name = "" then "in declaration for the " ++ ordinal (index + 1) ++ " parameter"
    else "in declaration for parameter `" ++ name ++ "`"
  | .variable name => "in declaration for variable `" ++ name ++ "`"
  | function name => "declaration for function `" ++ name ++ "` is therefore ignored"
  | enumUnderlying name => "in the underlying type for enumeration `" ++ name ++ "`"
  | structField field owner =>
    "in declaration of field `" ++ field ++ "` of struct `" ++ owner ++ "`"

/-- A type that has no counterpart, with where it was found. -/
structure Rejection where
  error : LoweringError
  /-- The location of the declaration that was being lowered. -/
  location : Location
  /-- The enclosing places with their locations, innermost first. -/
  context : List (Frame × Location) := []
deriving DecidableEq, Repr, Inhabited

namespace Rejection

/-- Adds the next enclosing place. -/
def within (rejection : Rejection) (frame : Frame) (location : Location) : Rejection :=
  { rejection with context := rejection.context ++ [(frame, location)] }

/-- Adds an enclosing place to a rejection and leaves a result as it is. -/
def enclose {α : Type} (frame : Frame) (location : Location) (result : Except Rejection α) :
    Except Rejection α :=
  result.mapError fun rejection => rejection.within frame location

/-- The warning that the declaration is left out. -/
def warning (rejection : Rejection) : Diagnostic :=
  (Diagnostic.warning rejection.error.code
    ("declaration is ignored: " ++ rejection.error.message)).withLabel rejection.location
    "declared here"

/-- The note about one enclosing place. -/
def contextNote (place : Frame × Location) : Diagnostic :=
  (Diagnostic.note .enclosingDeclaration place.1.describe).withLabel place.2 "in this declaration"

/-- The report: the warning, then a note for each enclosing place. -/
def diagnostics (rejection : Rejection) : List Diagnostic :=
  rejection.warning :: rejection.context.map contextNote

end Rejection

end ForeignBindings
