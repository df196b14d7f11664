import ForeignBindings.Enumerator
import ForeignBindings.Location
import ForeignBindings.Scalar.Builtin

/-!
# Declarations

The declarations of one source file as a C front end resolved them. Every type
is a finished tree, and the kinds of its nodes are a closed list.
-/

namespace ForeignBindings

/-- The calling convention of a function prototype. -/
inductive CallConvention where
  | c
  | stdCall
  | fastCall
  | thisCall
  | vectorCall
  | pascal
  | win64
  | swift
deriving DecidableEq, Repr, Inhabited

namespace CallConvention

/-- Every calling convention. -/
def all : List CallConvention :=
  [c, stdCall, fastCall, thisCall, vectorCall, pascal, win64, swift]

/-- The word that stands for a convention in a dump. -/
def word : CallConvention → String
  | c => "c"
  | stdCall => "std_call"
  | fastCall => "fast_call"
  | thisCall => "this_call"
  | vectorCall => "vector_call"
  | pascal => "pascal"
  | win64 => "win64"
  | swift => "swift"

/-- The name that diagnostics show. -/
def name : CallConvention → String
  | c => "cdecl"
  | stdCall => "stdcall"
  | fastCall => "fastcall"
  | thisCall => "thiscall"
  | vectorCall => "vectorcall"
  | pascal => "pascal"
  | win64 => "ms_abi"
  | swift => "swiftcall"

end CallConvention

/-- A type as the source declares it. -/
inductive SourceType where
  | builtin (builtin : Builtin)
  | pointer (pointee : SourceType)
  | lvalueReference (referee : SourceType)
  | rvalueReference (referee : SourceType)
  /-- A use of a typedef, with the type that it names. -/
  | typedef (name qualifiedName : String) (inSystemHeader : Bool) (underlying : SourceType)
  /-- An instance of a class template, as the source writes it. -/
  | templateSpecialization (printedName : String)
  /-- A struct, union, class or enum; an anonymous one has the empty name. -/
  | tag (name : String)
  | prototype (convention : CallConvention) (result : SourceType)
      (parameters : List SourceType)
  /-- Anything that the front end does not classify further. -/
  | other (description : String)
deriving Repr, Inhabited

/-- What holds of a type if it holds of the types that it is made of holds of all types. -/
@[elab_as_elim]
theorem SourceType.induction {motive : SourceType → Prop}
    (builtin : ∀ leaf, motive (.builtin leaf))
    (pointer : ∀ pointee, motive pointee → motive (.pointer pointee))
    (lvalueReference : ∀ referee, motive referee → motive (.lvalueReference referee))
    (rvalueReference : ∀ referee, motive referee → motive (.rvalueReference referee))
    (typedef : ∀ name qualifiedName inSystemHeader underlying, motive underlying →
      motive (.typedef name qualifiedName inSystemHeader underlying))
    (templateSpecialization : ∀ printedName, motive (.templateSpecialization printedName))
    (tag : ∀ name, motive (.tag name))
    (prototype : ∀ convention result parameters, motive result →
      (∀ parameter ∈ parameters, motive parameter) →
        motive (.prototype convention result parameters))
    (other : ∀ description, motive (.other description)) (type : SourceType) : motive type :=
  @SourceType.rec motive (fun parameters => ∀ parameter ∈ parameters, motive parameter) builtin
    pointer lvalueReference rvalueReference typedef templateSpecialization tag prototype other
    (List.forall_mem_nil _) (fun _ _ first others => List.forall_mem_cons.mpr ⟨first, others⟩) type

/-- A parameter or a field of a declaration. -/
structure Member where
  name : String
  type : SourceType
  location : Location := .unknown
deriving Repr, Inhabited

/-- What a typedef declaration names. -/
inductive TypedefTarget where
  | enumeration (name : String) (integerType : SourceType)
      (enumerators : List Enumerator)
  | structure (name : String) (fields : List Member)
  /-- Any other type; such a typedef yields nothing of its own. -/
  | type (type : SourceType)
deriving Repr, Inhabited

/-- The part of a declaration that depends on its kind. -/
inductive DeclarationKind where
  | variable (type : SourceType)
  | function (result : SourceType) (parameters : List Member)
  | enumeration (integerType : SourceType) (enumerators : List Enumerator)
  | structure (fields : List Member)
  | typedef (underlying : TypedefTarget)
deriving Repr, Inhabited

/-- The linkage of a declaration. -/
structure Linkage where
  externalFormal : Bool := true
  /-- Whether the declaration has C language linkage. -/
  cLanguage : Bool := true
deriving DecidableEq, Repr, Inhabited

/-- The file that a declaration comes from, seen from the file being processed. -/
inductive Origin where
  | mainFile
  | header
  | systemHeader
deriving DecidableEq, Repr, Inhabited

namespace Origin

/-- Every origin. -/
def all : List Origin := [mainFile, header, systemHeader]

/-- The word that stands for an origin in a dump. -/
def word : Origin → String
  | mainFile => "main_file"
  | header => "header"
  | systemHeader => "system_header"

end Origin

/-- A declaration at the top level of a source file. -/
structure Declaration where
  /-- The declared name, empty for an anonymous tag. -/
  name : String := ""
  kind : DeclarationKind
  linkage : Linkage := {}
  origin : Origin := .mainFile
  location : Location := .unknown
deriving Repr, Inhabited

/-- Whether the declaration is a function or a variable. -/
def Declaration.isEntity (declaration : Declaration) : Bool :=
  match declaration.kind with
  | .variable _ | .function _ _ => true
  | _ => false

/-- One source file. -/
structure SourceUnit where
  file : String := ""
  declarations : List Declaration := []
deriving Repr, Inhabited

end ForeignBindings
