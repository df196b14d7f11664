/-!
# Data values

The values that dumps and configurations are written in. The JSON and the YAML
reader yield them, and the decoders of the library read them. A scalar of a YAML
document that has no quotes does not say what it is: `12` is a text where a text
is wanted and a number where a number is wanted. Such scalars stay `plain` until
a decoder asks.
-/

namespace ForeignBindings

/-- A value of a data format. -/
inductive Value where
  | null
  | boolean (value : Bool)
  /-- An integer without a sign. -/
  | natural (value : Nat)
  /-- An integer behind a minus; it may be zero. -/
  | negative (magnitude : Nat)
  /-- A number with a fraction or an exponent, as it was written. -/
  | decimal (text : String)
  | text (text : String)
  /-- An unquoted scalar, to be read as what is wanted. -/
  | plain (text : String)
  /-- A scalar that is well formed but denotes nothing: a text with half a surrogate pair, or
  a number beyond double precision. It may be passed over, but nothing reads it. -/
  | unusable
  | sequence (items : List Value)
  /-- Entries in the order in which they were written; a key may occur twice. -/
  | mapping (entries : List (Value × Value))
deriving Repr, Inhabited

/-- Values by the names of the fields that they stand for. -/
abbrev Fields := List (String × Value)

namespace Value

/-- The entries of a mapping. -/
abbrev Entries := List (Value × Value)

/-- A record, in which every key is the name of a field. -/
def record (fields : Fields) : Value :=
  mapping (fields.map fun field => (.text field.1, field.2))

/-- An integer. -/
def ofInt : Int → Value
  | .ofNat number => natural number
  | .negSucc number => negative (number + 1)

/-- How a value comes to its decoder: as it stands in the document, or with everything in it
settled before, because it is part of something that had to be read as a whole first. A
settled value may name a member of a list by its place in the list. -/
inductive Form where
  | written
  | settled
deriving DecidableEq, Repr, Inhabited

end Value

end ForeignBindings
