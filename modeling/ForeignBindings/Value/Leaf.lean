import ForeignBindings.Value.Plain

/-!
# Reading leaves

Texts, truth values, numbers and words. A plain scalar counts as whatever is
wanted, if it denotes one.
-/

namespace ForeignBindings.Value

/-- The text that a value is where a text is wanted. -/
def asText? : Value → Option String
  | text string | plain string => some string
  | _ => none

/-- The truth value that a value is where one is wanted. -/
def asBoolean? : Value → Option Bool
  | boolean truth => some truth
  | plain string => plainBoolean? string
  | _ => none

/-- The integer that a value is where one is wanted. -/
def asInteger? : Value → Option Int
  | natural number => some (Int.ofNat number)
  | negative magnitude => some (-Int.ofNat magnitude)
  | plain string =>
    match plainNatural? string with
    | some number => some (Int.ofNat number)
    | none => (plainNegative? string).map fun magnitude => -Int.ofNat magnitude
  | _ => none

/-- The natural number that a value is where one is wanted. A plain scalar that spells it has
no minus. -/
def asUnsigned? : Value → Option Nat
  | natural number => some number
  | negative 0 => some 0
  | plain string => plainNatural? string
  | _ => none

/-- The natural number of a value, if it fits into that many bits. -/
def asNatural? (bits : Nat) (value : Value) : Option Nat := do
  let number ← value.asUnsigned?
  if number < Nat.pow 2 bits then some number else none

/-- The integer of a value, if it fits into 32 bits without a sign. -/
def asUInt32? (value : Value) : Option UInt32 := (value.asNatural? 32).map UInt32.ofNat

/-- The integer of a value, if it fits into 64 bits with a sign. -/
def asInt64? (value : Value) : Option Int64 := do
  let number ← value.asInteger?
  if Int64.minValue.toInt ≤ number ∧ number ≤ Int64.maxValue.toInt then
    some (Int64.ofInt number)
  else none

/-- The member of a list that a value names: a text names it by its word, a number by its
place. -/
def asMember? {α : Type} (members : List α) (word : α → String) : Value → Option α
  | natural place => members[place]?
  | text wanted | plain wanted => members.find? fun candidate => word candidate == wanted
  | _ => none

/-- Whether a value behind a word adds nothing to the word. In a settled value an empty
mapping adds nothing either. -/
def isUnit (form : Form) : Value → Bool
  | null => true
  | mapping [] => form = .settled
  | _ => false

/-- The member of a list that a word names. The word may stand alone or, behind it, something
that adds nothing; then a place may stand for the word. -/
def asOneOf? {α : Type} (form : Form) (members : List α) (word : α → String) :
    Value → Option α
  | mapping [(key, unit)] => if unit.isUnit form then key.asMember? members word else none
  | natural _ => none
  | value => value.asMember? members word

/-- The member of a list that a tag names. A place stands for the word only in a settled
value. -/
def asTag? {α : Type} (form : Form) (members : List α) (word : α → String) :
    Value → Option α
  | natural place => if form = .settled then members[place]? else none
  | value => value.asMember? members word

end ForeignBindings.Value
