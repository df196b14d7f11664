import ForeignBindings.CType
import ForeignBindings.Render.Options
import ForeignBindings.Render.ScalarName
import ForeignBindings.Render.State

/-!
# Types in Haskell

How a C type reads in Haskell. A pointer to plain `char` is a C string, a
pointer to a function has a type constructor of its own, and a pointer to void
is a pointer to anything: to a fresh type variable, or to the unit type where
variables are not wanted.
-/

namespace ForeignBindings

/-- A text in parentheses, if it needs them. -/
def parenthesized (isNeeded : Bool) (text : String) : String :=
  if isNeeded then "(" ++ text ++ ")" else text

namespace Render

mutual

/-- The text of a type. With `isArgument`, a compound type stands in parentheses; with
`anyPointer`, a pointer to void gets a fresh type variable. -/
def typeText (anyPointer : Bool) : CType → (isArgument : Bool) → Render String
  | .scalar leaf, _ => pure leaf.haskellName
  | .named name, _ => typeName name
  | .pointer pointee, isArgument =>
    if pointee.isPlainChar then pure "CString"
    else do
      let target ←
        if pointee.isVoid && anyPointer then freshVariable else typeText anyPointer pointee true
      let constructor := if pointee.isFunction then "FunPtr " else "Ptr "
      pure (parenthesized isArgument (constructor ++ target))
  | .function result parameters, isArgument => do
    let arguments ← argumentsText anyPointer parameters
    let result ← typeText anyPointer result true
    pure (parenthesized isArgument (arguments ++ "IO " ++ result))
termination_by structural type => type

/-- The text of the parameters of a function, each with the arrow behind it. -/
def argumentsText (anyPointer : Bool) : List (Entity CType) → Render String
  | [] => pure ""
  | ⟨_, type⟩ :: rest => do
    let first ← typeText anyPointer type false
    let others ← argumentsText anyPointer rest
    pure (first ++ " -> " ++ others)
termination_by structural parameters => parameters

end

/-- The quantifier over the first `count` type variables. -/
def quantifier (count : Nat) : String :=
  "forall " ++ String.join ((List.range count).map fun index => typeVariable index ++ " ") ++ ". "

/-- The text of the type of a record field. Its type variables are its own and quantified in
place. -/
def fieldText (options : RenderOptions) (type : CType) : Render String := do
  let _ ← resetFresh
  let body ← typeText options.quantifiesFields type false
  let count ← resetFresh
  pure (if count = 0 then body else quantifier count ++ body)

end Render

end ForeignBindings
