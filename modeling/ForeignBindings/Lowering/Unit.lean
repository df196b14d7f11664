import ForeignBindings.Contents
import ForeignBindings.Diagnostic.Queue
import ForeignBindings.Lowering.Type

/-!
# Lowering of declarations

Each declaration of a unit contributes to the module on its own: an entity, a
tag, diagnostics, or nothing. It has to belong to the interface and to have
external linkage, and a function or variable needs C linkage besides. A rejected
declaration contributes only its report. The lowering of a unit is the sum of
the contributions.
-/

namespace ForeignBindings

/-- What a declaration adds to the module of its file. -/
inductive Contribution where
  | nothing
  | entity (name : String) (type : CType)
  | tag (name : String) (tag : Tag)
  | report (diagnostics : List Diagnostic)
deriving DecidableEq, Repr, Inhabited

namespace Contribution

/-- The report of a declaration that is left out. -/
def rejected (rejection : Rejection) : Contribution := report rejection.diagnostics

/-- Adds a contribution to the module. -/
def addTo (contribution : Contribution) (contents : Contents) : Contents :=
  match contribution with
  | nothing | report _ => contents
  | entity name type => contents.addEntity name type
  | tag name definition => contents.addTag name definition

/-- The diagnostics of a contribution. -/
def diagnostics : Contribution → List Diagnostic
  | report diagnostics => diagnostics
  | _ => []

end Contribution

namespace Declaration

/-- Whether a declaration belongs to the interface of the file. -/
def isPublic (policy : LoweringPolicy) (declaration : Declaration) : Bool :=
  match declaration.origin with
  | .mainFile => true
  | .header => policy.headerGroup
  | .systemHeader => false

/-- The report that a declaration has no external linkage. -/
def externalLinkageWarning (declaration : Declaration) : Diagnostic :=
  (Diagnostic.warning .noExternalLinkage
    ("declaration for entity `" ++ declaration.name ++
      "` is ignored, because it does not have an external formal linkage")).withLabel
    declaration.location "declared here"

/-- The report that a declaration has no C linkage. -/
def cLinkageWarning (declaration : Declaration) : Diagnostic :=
  ((Diagnostic.warning .noCLinkage
    ("declaration for entity `" ++ declaration.name ++
      "` is ignored, because it does not have a C language linkage")).withLabel
    declaration.location "declared here").withSuggestion
    "declare it `extern \"C\"` or set `assume_extern_c`"

/-- An entity; one whose type mentions a type without a name cannot be written and is
dropped. -/
def entityOf (name : String) (type : CType) : Contribution :=
  if type.mentionsAnonymous then .nothing else .entity name type

/-- The contribution of a variable. -/
def variableContribution (policy : LoweringPolicy) (name : String) (location : Location)
    (type : SourceType) : Contribution :=
  match Rejection.enclose (.variable name) location (type.lowerValue policy location) with
  | .ok type => entityOf name type
  | .error rejection => .rejected rejection

/-- Lowers the parameters of a function from the one of the given index on. A parameter
without a location of its own is found where the function is. -/
def lowerParameters (policy : LoweringPolicy) (location : Location) (index : Nat) :
    List Member → Except Rejection (List (Entity CType))
  | [] => .ok []
  | parameter :: rest => do
    let place := parameter.location.orElse location
    let type ← Rejection.enclose (.parameter parameter.name index) place
      (parameter.type.lowerValue policy place)
    let rest ← lowerParameters policy location (index + 1) rest
    return ⟨parameter.name, type⟩ :: rest

/-- Lowers the signature of a function. -/
def lowerSignature (policy : LoweringPolicy) (location : Location) (result : SourceType)
    (parameters : List Member) : Except Rejection CType := do
  let result ← result.lower policy location
  let parameters ← lowerParameters policy location 0 parameters
  return .function result parameters

/-- The contribution of a function. -/
def functionContribution (policy : LoweringPolicy) (name : String) (location : Location)
    (result : SourceType) (parameters : List Member) : Contribution :=
  match Rejection.enclose (.function name) location
      (lowerSignature policy location result parameters) with
  | .ok type => entityOf name type
  | .error rejection => .rejected rejection

/-- The contribution of an enum under a tag; without a tag it has none. -/
def enumerationContribution (policy : LoweringPolicy) (name : String) (location : Location)
    (integerType : SourceType) (enumerators : List Enumerator) : Contribution :=
  if name = "" then .nothing
  else match Rejection.enclose (.enumUnderlying name) location
      (integerType.lower policy location) with
    | .ok underlying => .tag name (.enumeration underlying enumerators)
    | .error rejection => .rejected rejection

/-- Lowers the fields of a struct in order. There is no result, and no rejection, once a
field mentions a type without a name. -/
def lowerFields (policy : LoweringPolicy) (owner : String) (location : Location) :
    List Member → Except Rejection (Option (List (Entity CType)))
  | [] => .ok (some [])
  | field :: rest => do
    let place := field.location.orElse location
    let type ← Rejection.enclose (.structField field.name owner) place
      (field.type.lower policy place)
    if type.mentionsAnonymous then return none
    let rest ← lowerFields policy owner location rest
    return rest.map fun fields => ⟨field.name, type⟩ :: fields

/-- The contribution of a struct under a tag; without a tag it has none. -/
def structureContribution (policy : LoweringPolicy) (name : String) (location : Location)
    (fields : List Member) : Contribution :=
  if name = "" then .nothing
  else match lowerFields policy name location fields with
    | .ok (some fields) => .tag name (.structure fields)
    | .ok none => .nothing
    | .error rejection => .rejected rejection

/-- The tag that a typedef of a struct or an enum defines: the tag's own name, or that of the
typedef where the tag has none. -/
def definedTag (tagName typedefName : String) : String :=
  if tagName = "" then typedefName else tagName

/-- The contribution of a typedef. -/
def typedefContribution (policy : LoweringPolicy) (name : String) (location : Location) :
    TypedefTarget → Contribution
  | .enumeration tagName integerType enumerators =>
    enumerationContribution policy (definedTag tagName name) location integerType enumerators
  | .structure tagName fields =>
    structureContribution policy (definedTag tagName name) location fields
  | .type _ => .nothing

/-- The contribution of a declaration that is to be lowered. -/
def lowered (policy : LoweringPolicy) (declaration : Declaration) : Contribution :=
  let name := declaration.name
  let location := declaration.location
  match declaration.kind with
  | .variable type => variableContribution policy name location type
  | .function result parameters => functionContribution policy name location result parameters
  | .enumeration integerType enumerators =>
    enumerationContribution policy name location integerType enumerators
  | .structure fields => structureContribution policy name location fields
  | .typedef target => typedefContribution policy name location target

/-- The contribution of a declaration. -/
def contribution (policy : LoweringPolicy) (declaration : Declaration) : Contribution :=
  if !declaration.isPublic policy then .nothing
  else if !declaration.linkage.externalFormal then
    if policy.warnNoExternalFormalLinkage then .report [declaration.externalLinkageWarning]
    else .nothing
  else if declaration.isEntity && !(declaration.linkage.cLanguage || policy.assumeExternC) then
    if policy.warnNoCLinkage then .report [declaration.cLinkageWarning] else .nothing
  else declaration.lowered policy

end Declaration

/-- The contributions of the declarations of a unit, in order. -/
def SourceUnit.contributions (policy : LoweringPolicy) (unit : SourceUnit) :
    List Contribution :=
  unit.declarations.map (Declaration.contribution policy)

/-- Lowers a unit. What is left out is reported to the queue. -/
def SourceUnit.lower (policy : LoweringPolicy) (unit : SourceUnit)
    (queue : Queue) : Contents × Queue :=
  let contributions := unit.contributions policy
  (contributions.foldl (fun contents contribution => contribution.addTo contents) {},
    queue.extend (contributions.flatMap Contribution.diagnostics))

end ForeignBindings
