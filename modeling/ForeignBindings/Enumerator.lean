/-!
# Enumerators

The constants of an enum. Lowering keeps them as the source declares them, so
declarations and lowered modules share this type. A value is a word of 64 bits with
a sign, which holds the value of an enumerator of any integer type that C has.
-/

namespace ForeignBindings

/-- A constant of an enum with its value. -/
structure Enumerator where
  name : String
  value : Int64
deriving DecidableEq, Repr, Inhabited

end ForeignBindings
