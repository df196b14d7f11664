import ForeignBindings.Render.Module

/-!
# The declarations of a generated module

`HostDeclaration` is what a generated module consists of behind its front: the names that
it declares, with the texts that stand between them. `Contents.declaredNames` are the source
names that have to be declared.
-/

namespace ForeignBindings

/-- A top-level declaration of a generated module. -/
inductive HostDeclaration where
  /-- Types without constructors. -/
  | emptyDatas (types : List String)
  /-- A newtype of an integer type, with its accessor, its pattern synonyms and the members of
  its instance, if it has one. -/
  | newtype (type constructor accessor integer : String) (patterns : List (String × Int))
      (members : Option (List String))
  /-- A record with its fields and their types, and the members of its instance. -/
  | record (type constructor : String) (fields : List (String × String))
      (members : Option (List String))
  /-- The import of a foreign function or of the address of a foreign variable. -/
  | foreignImport (isFunction : Bool) (source output type : String)

namespace HostDeclaration

/-- The lines of an instance. Its members stand further in. -/
def instanceLines (type : String) : Option (List String) → List String
  | none => []
  | some members =>
    ("instance Storable " ++ type ++ " where") :: members.map (fun line => "  " ++ line) ++ [""]

/-- The line of a field behind its opening brace or comma. -/
def fieldLine (lead : String) (field : String × String) : String :=
  "  " ++ (lead ++ " " ++ field.1 ++ " :: " ++ field.2)

/-- The lines of the fields of a record. -/
def fieldLines : List (String × String) → List String
  | [] => []
  | first :: rest => fieldLine "\x7b" first :: rest.map (fieldLine ",") ++ ["  \x7d"]

/-- The lines of a declaration. -/
def lines : HostDeclaration → List String
  | emptyDatas types =>
    if types.isEmpty then [] else types.map (fun type => "data " ++ type) ++ [""]
  | newtype type constructor accessor integer patterns members =>
    ("newtype " ++ type ++ " = " ++ constructor ++ " \x7b " ++ accessor ++ " :: " ++ integer ++
        " \x7d") ::
      patterns.map (fun pattern =>
        "pattern " ++ pattern.1 ++ " = " ++ constructor ++ " " ++ Render.numeral pattern.2) ++
      [""] ++ instanceLines type members
  | record type constructor fields members =>
    ("data " ++ type ++ " = " ++ constructor) :: fieldLines fields ++ [""] ++
      instanceLines type members
  | foreignImport true source output type =>
    ["foreign import ccall \"" ++ source ++ "\" " ++ output ++ " :: " ++ type]
  | foreignImport false source output type =>
    ["foreign import ccall \"&" ++ source ++ "\" " ++ output ++ " :: Ptr " ++ type]

/-- The names of one kind that a declaration declares. -/
def names : ItemKind → HostDeclaration → List String
  | .type, emptyDatas types => types
  | .type, newtype type .. | .type, record type .. => [type]
  | .constructor, newtype _ constructor _ _ patterns _ => constructor :: patterns.map Prod.fst
  | .constructor, record _ constructor .. => [constructor]
  | .variable, newtype _ _ accessor .. => [accessor]
  | .variable, record _ _ fields _ => fields.map Prod.fst
  | .variable, foreignImport _ _ output _ => [output]
  | _, _ => []

end HostDeclaration

namespace Tag

end Tag

end ForeignBindings
