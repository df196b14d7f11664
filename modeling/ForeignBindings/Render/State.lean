import ForeignBindings.Diagnostic.Queue
import ForeignBindings.Name.Resolver
import ForeignBindings.Render.Buffer

/-!
# The state of rendering

Rendering a module writes text, resolves names, reports what goes wrong and
hands out type variables. The type variables are `a` to `z`, then `za` to `zz`,
`zza` and so on.
-/

namespace ForeignBindings

/-- What rendering reads and changes. -/
structure RenderState where
  resolver : Resolver
  queue : Queue := {}
  buffer : Buffer := {}
  /-- The number of type variables handed out since the last reset. -/
  fresh : Nat := 0
deriving Inhabited

/-- A step of rendering. -/
abbrev Render := StateM RenderState

/-- The type variable that is handed out after `index` others. -/
def typeVariable (index : Nat) : String :=
  String.ofList (List.replicate (index / 26) 'z' ++ [Char.ofNat ('a'.toNat + index % 26)])

namespace Render

/-- Changes the text. -/
def edit (change : Buffer → Buffer) : Render Unit :=
  modify fun state => { state with buffer := change state.buffer }

/-- Writes an indented line. -/
def line (text : String) : Render Unit := edit fun buffer => buffer.writeLine text

/-- Writes an empty line. -/
def blank : Render Unit := edit Buffer.newline

/-- Writes lines in order. -/
def lines (texts : List String) : Render Unit := texts.forM line

/-- Renders something one level further in. -/
def indented (body : Render Unit) : Render Unit := do
  edit Buffer.indent
  body
  edit Buffer.dedent

/-- Takes the text written so far. -/
def takeText : Render String :=
  modifyGet fun state =>
    let (text, buffer) := state.buffer.take
    (text, { state with buffer })

/-- Reports a diagnostic. -/
def report (diagnostic : Diagnostic) : Render Unit :=
  modify fun state => { state with queue := state.queue.push diagnostic }

/-- Hands out the next type variable. -/
def freshVariable : Render String :=
  modifyGet fun state => (typeVariable state.fresh, { state with fresh := state.fresh + 1 })

/-- Forgets the type variables handed out so far, and says how many there were. -/
def resetFresh : Render Nat := modifyGet fun state => (state.fresh, { state with fresh := 0 })

/-- The report of a name that cannot be converted. -/
def unconvertible (moduleName : String) (kind : ItemKind) (source : ScopedName)
    (error : ConverterError) : Diagnostic :=
  (Diagnostic.error .nameUnconvertible
      ("cannot convert " ++ kind.text ++ " name `" ++ source.display ++ "`: " ++ error.message)
    |>.withNote ("module `" ++ moduleName ++ "`")
    |>.withSuggestion "add a name override for this identifier")

/-- The Haskell name of a source name. One that cannot be converted is reported and used as
it is. -/
def nameOf (kind : ItemKind) (source : ScopedName) : Render String := do
  let state ← get
  let (result, resolver) := state.resolver.resolve kind source
  set { state with resolver }
  match result with
  | .ok output => pure output
  | .error error =>
    report (unconvertible resolver.moduleName kind source error)
    pure source.name

/-- The Haskell name of a type. -/
def typeName (raw : String) : Render String := nameOf .type (.unscoped raw)

/-- The Haskell name of a constructor or a pattern. -/
def constructorName (scope raw : String) : Render String := nameOf .constructor ⟨scope, raw⟩

/-- The Haskell name of a function, a variable or a record field. -/
def variableName (scope raw : String) : Render String := nameOf .variable ⟨scope, raw⟩

end Render

end ForeignBindings
