import ForeignBindings.Name.Affixes
import ForeignBindings.Name.Case

/-!
# Name converters

A converter strips and adds affixes and then converts the case. Converters are
layered: what a parent does happens between the affixes and the case conversion
of the converter above it, or after both. Layering is flattened into a chain of
steps, so that converting a name is a walk along the chain.
-/

namespace ForeignBindings

/-- What is wrong with a converter, or with a name under it. -/
inductive ConverterError where
  | sharedCase (converter : String) (found : NameCase)
  | sharedPrefix (converter : String) (found : String)
  | badInitial (converter : String) (addedPrefix : String) (expected : LetterCase)
  | emptyName (raw : String)
deriving DecidableEq, Repr, Inhabited

namespace ConverterError

/-- The kind of initial that a variant asks for, in words. -/
def initialText : LetterCase → String
  | .upper => "an upper-case letter"
  | .lower => "a lower-case letter or `_`"

/-- The error in words. -/
def message : ConverterError → String
  | sharedCase converter found =>
    "the `" ++ converter ++ "` converter must use the preserving case, found `" ++ found.word ++
      "`"
  | sharedPrefix converter found =>
    "the `" ++ converter ++ "` converter must not add a prefix, found `" ++ found ++ "`"
  | badInitial converter addedPrefix expected =>
    "the `" ++ converter ++ "` converter keeps the original case, so its added prefix `" ++
      addedPrefix ++ "` must start with " ++ initialText expected
  | emptyName raw => "`" ++ raw ++ "` converts to an empty identifier"

end ConverterError

/-- A converter as a configuration describes it. -/
structure NameConverter where
  nameCase : NameCase := .preserving
  affixes : Affixes := {}
deriving DecidableEq, Repr, Inhabited

namespace NameConverter

/-- What is wrong with a converter that others are layered over. Such a converter may strip
and append, but neither convert the case nor add a text in front. -/
def sharedError? (converter : NameConverter) (label : String) : Option ConverterError :=
  if converter.nameCase ≠ .preserving then some (.sharedCase label converter.nameCase)
  else if converter.affixes.addPrefix ≠ "" then
    some (.sharedPrefix label converter.affixes.addPrefix)
  else none

/-- What is wrong with a converter for one kind of identifier. Converting the case forces
the right initial; where the case is preserved, the added text in front has to supply it. -/
def error? (converter : NameConverter) (label : String) (variant : NameVariant) :
    Option ConverterError :=
  match variant.initial? with
  | none => none
  | some expected =>
    if converter.nameCase ≠ .preserving || variant.acceptsInitial converter.affixes.addPrefix then
      none
    else some (.badInitial label converter.affixes.addPrefix expected)

end NameConverter

/-- One step of a conversion. -/
inductive Step where
  | affix (affixes : Affixes)
  | recase (nameCase : NameCase) (variant : NameVariant)
deriving DecidableEq, Repr

/-- Takes one step; there is no result when nothing is left to convert. -/
def Step.apply? : Step → String → Option String
  | affix affixes, name => some (affixes.apply name)
  | recase nameCase variant, name => nameCase.convert? variant name

/-- A conversion as a list of steps. -/
structure Chain where
  steps : List Step := []
deriving DecidableEq, Repr, Inhabited

namespace Chain

/-- The chain that changes no name. -/
def identity : Chain := {}

/-- The affix step of a converter, left out where it would change nothing. -/
def affixSteps (converter : NameConverter) : List Step :=
  if converter.affixes.isIdentity then [] else [.affix converter.affixes]

/-- The case step of a converter, left out where the case is preserved. -/
def caseSteps (converter : NameConverter) (variant : NameVariant) : List Step :=
  if converter.nameCase = .preserving then [] else [.recase converter.nameCase variant]

/-- Layers a converter over a parent. The affixes come first; the parent runs before the
case conversion, or after it when `afterward` is set. -/
def layered (converter : NameConverter) (variant : NameVariant) (parent : Chain)
    (afterward : Bool) : Chain :=
  let cases := caseSteps converter variant
  ⟨affixSteps converter ++
    (if afterward then cases ++ parent.steps else parent.steps ++ cases)⟩

/-- The chain of one converter. -/
def single (converter : NameConverter) (variant : NameVariant) : Chain :=
  layered converter variant identity false

/-- Takes the steps in order, until one has no result. -/
def run? (steps : List Step) (name : String) : Option String :=
  steps.foldlM (fun current step => step.apply? current) name

/-- Converts a name. A name of which nothing is left is an error. -/
def convert (chain : Chain) (raw : String) : Except ConverterError String :=
  match run? chain.steps raw with
  | some name => if name = "" then .error (.emptyName raw) else .ok name
  | none => .error (.emptyName raw)

end Chain

/-- The converters of a configuration: one per kind of identifier, and one that is shared. -/
structure ConverterSet where
  /-- Layered under every other converter. -/
  shared : NameConverter := {}
  moduleName : NameConverter := { nameCase := .camel }
  typeName : NameConverter := { nameCase := .camel }
  constructorName : NameConverter := { nameCase := .camel }
  variableName : NameConverter := { nameCase := .camel }
deriving DecidableEq, Repr, Inhabited

namespace ConverterSet

/-- Everything that is wrong with the converters. -/
def errors (converters : ConverterSet) : List ConverterError :=
  [converters.shared.sharedError? "all",
    converters.moduleName.error? "module" .moduleName,
    converters.typeName.error? "type" .typeConstructor,
    converters.constructorName.error? "ctor" .dataConstructor,
    converters.variableName.error? "var" .variable].filterMap id

/-- The chain of a converter that a single file adds. -/
def fileChain : Option NameConverter → Chain
  | none => .identity
  | some converter => .single converter .preserving

/-- The chain of the shared converter, after which the one of the file runs. -/
def sharedChain (converters : ConverterSet) (file : Option NameConverter) : Chain :=
  .layered converters.shared .preserving (fileChain file) true

/-- The chain of one variant: its converter layered over the shared chain. -/
def chain (converters : ConverterSet) (variant : NameVariant) (file : Option NameConverter) :
    Chain :=
  let layer (converter : NameConverter) : Chain :=
    .layered converter variant (converters.sharedChain file) false
  match variant with
  | .preserving => converters.sharedChain file
  | .moduleName => layer converters.moduleName
  | .typeConstructor => layer converters.typeName
  | .dataConstructor => layer converters.constructorName
  | .variable => layer converters.variableName

end ConverterSet

end ForeignBindings
