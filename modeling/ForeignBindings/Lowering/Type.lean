import ForeignBindings.Lowering.Policy
import ForeignBindings.Lowering.Rejection
import ForeignBindings.Scalar.Alias

/-!
# Lowering of types

Lowering turns the types that a source declares into the types that bindings are
generated from. A type is lowered from its leaves upwards. A part that has no
counterpart rejects the whole, so there are no partial results. Of a function
prototype the calling convention is checked first, then the result, then the
parameters in order; the first offence counts.
-/

namespace ForeignBindings

namespace SourceType

/-- Refines what a typedef names. A scalar whose typedef has a standard name becomes the
scalar of that name, in system headers always and elsewhere if the policy allows it. A type
without a name takes the name of the typedef, the qualified one if there is one. -/
def refineAlias (policy : LoweringPolicy) (name qualifiedName : String)
    (inSystemHeader : Bool) : CType → CType
  | .scalar scalar =>
    if inSystemHeader || policy.allowCustomFixedSizeInt then
      .scalar ((Scalar.ofAlias? name).getD scalar)
    else .scalar scalar
  | .named found =>
    if found ≠ "" then .named found
    else if qualifiedName ≠ "" then .named qualifiedName
    else .named name
  | type => type

mutual

/-- Lowers a type that occurs in the declaration at a location. -/
def lower (policy : LoweringPolicy) (location : Location) :
    SourceType → Except Rejection CType
  | builtin kind =>
    match Scalar.ofBuiltin? kind with
    | some scalar => .ok (.scalar scalar)
    | none => .error ⟨.unsupportedBuiltin kind.displayName, location, []⟩
  | pointer pointee => (pointee.lower policy location).map CType.pointer
  | lvalueReference _ | rvalueReference _ => .error ⟨.unsupportedReference, location, []⟩
  | typedef name qualifiedName inSystemHeader underlying =>
    (Rejection.enclose (.typedefAlias name) .unknown (underlying.lower policy location)).map
      (refineAlias policy name qualifiedName inSystemHeader)
  | templateSpecialization printedName => .ok (.named printedName)
  | tag name => .ok (.named name)
  | prototype convention result parameters =>
    if convention ≠ .c then .error ⟨.unsupportedConvention convention, location, []⟩
    else do
      let result ← Rejection.enclose .prototypeReturn location (result.lower policy location)
      let parameters ← lowerParameters policy location 0 parameters
      return .function result parameters
  | other description => .error ⟨.unknownConstruct description, location, []⟩
termination_by structural type => type

/-- Lowers the parameters of a prototype from the one of the given index on. They have
no names. -/
def lowerParameters (policy : LoweringPolicy) (location : Location) (index : Nat) :
    List SourceType → Except Rejection (List (Entity CType))
  | [] => .ok []
  | parameter :: rest => do
    let type ←
      Rejection.enclose (.prototypeParameter index) location (parameter.lower policy location)
    let rest ← lowerParameters policy location (index + 1) rest
    return ⟨"", type⟩ :: rest
termination_by structural parameters => parameters

end

/-- Lowers the type of a variable or a parameter, whose values have to cross the language
boundary. What lies behind a pointer is not checked. -/
def lowerValue (policy : LoweringPolicy) (location : Location) (type : SourceType) :
    Except Rejection CType := do
  let type ← type.lower policy location
  if type.isMarshallable then return type
  else throw ⟨.notMarshallable type, location, []⟩

end SourceType

end ForeignBindings
