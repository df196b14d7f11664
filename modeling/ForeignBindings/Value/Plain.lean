import ForeignBindings.Value
import ForeignBindings.Value.Number

/-!
# Plain scalars

What a scalar without quotes denotes on its own, and the settling of values, in
which every plain scalar is replaced by what it denotes.
-/

namespace ForeignBindings.Value

/-- The words of a plain scalar that stand for nothing. -/
def nullWords : List String := ["", "~", "null", "Null", "NULL"]

/-- The truth value that a plain scalar denotes. -/
def plainBoolean? (text : String) : Option Bool :=
  if ["true", "True", "TRUE"].contains text then some true
  else if ["false", "False", "FALSE"].contains text then some false
  else none

/-- The number that a plain scalar denotes behind its sign: digits without a leading zero,
or digits of another base behind `0x`, `0o` or `0b`. -/
def plainMagnitude? : List Char → Option Nat
  | '0' :: 'x' :: digits => number? 16 digits
  | '0' :: 'o' :: digits => number? 8 digits
  | '0' :: 'b' :: digits => number? 2 digits
  | ['0'] => some 0
  | '0' :: _ => none
  | digits => number? 10 digits

/-- The number without a minus that a plain scalar denotes. -/
def plainNatural? (text : String) : Option Nat :=
  match text.toList with
  | '+' :: digits => plainMagnitude? digits
  | digits => plainMagnitude? digits

/-- The magnitude of the number behind a minus that a plain scalar denotes. -/
def plainNegative? (text : String) : Option Nat :=
  match text.toList with
  | '-' :: digits => plainMagnitude? digits
  | _ => none

/-- The exponent that stands behind the digits of a decimal number; none is zero. -/
def exponent? : List Char → Option Int
  | [] => some 0
  | marker :: digits =>
    if marker == 'e' || marker == 'E' then
      match digits with
      | '-' :: digits => (number? 10 digits).map fun number => -Int.ofNat number
      | '+' :: digits => (number? 10 digits).map Int.ofNat
      | digits => (number? 10 digits).map Int.ofNat
    else none

/-- A text without the sign at its beginning. -/
def unsigned (text : List Char) : List Char :=
  match text with
  | '+' :: rest | '-' :: rest => rest
  | _ => text

/-- Whether a text consists of digits behind a zero, which is a text and no number. -/
def isPaddedNumber (text : String) : Bool :=
  match unsigned text.toList with
  | '0' :: digit :: digits => (digit :: digits).all Char.isDigit
  | _ => false

/-- Whether a plain scalar denotes a decimal number: digits with a point among, before or
after them, an exponent, or one of the words for infinity and for no number. -/
def isPlainDecimal (text : String) : Bool :=
  let unsigned := unsigned text.toList
  let whole := unsigned.takeWhile Char.isDigit
  let (fraction, rest) := match unsigned.dropWhile Char.isDigit with
    | '.' :: rest => (rest.takeWhile Char.isDigit, rest.dropWhile Char.isDigit)
    | rest => ([], rest)
  let isNumber := match exponent? rest with
    | some exponent =>
      !(whole ++ fraction).isEmpty &&
        isFiniteDouble (whole ++ fraction) (exponent - Int.ofNat fraction.length)
    | none => false
  (isNumber && !isPaddedNumber text) ||
    [".inf", ".Inf", ".INF"].contains (String.ofList unsigned) ||
    [".nan", ".NaN", ".NAN"].contains text

/-- What a plain scalar is that denotes no integer: a decimal number or a text. -/
def settleOther (text : String) : Value :=
  if isPlainDecimal text then decimal text else .text text

/-- What an integer is whose value fits into 64 bits. One that fits only into 128 bits is
refused, and a greater one is not taken for an integer. -/
def settleInteger? (fits fitsWide : Bool) (number other : Value) : Option Value :=
  if fits then some number else if fitsWide then none else some other

/-- What a plain scalar is where nothing in particular is wanted. -/
def settlePlain? (text : String) : Option Value :=
  if nullWords.contains text then some null
  else match plainBoolean? text, plainNatural? text, plainNegative? text with
    | some truth, _, _ => some (boolean truth)
    | none, some number, _ =>
      settleInteger? (number < Nat.pow 2 64) (number < Nat.pow 2 128) (natural number)
        (settleOther text)
    | none, none, some magnitude =>
      settleInteger? (magnitude ≤ Nat.pow 2 63) (magnitude ≤ Nat.pow 2 127) (negative magnitude)
        (settleOther text)
    | none, none, none => some (settleOther text)

mutual

/-- The value with every plain scalar in it settled. There is none if something in it cannot
be settled or is not usable. -/
def settle? : Value → Option Value
  | plain spelling => settlePlain? spelling
  | unusable => none
  | sequence items => (settleItems? items).map sequence
  | mapping entries => (settleEntries? entries).map mapping
  | value => some value
termination_by structural value => value

/-- The items of a sequence, settled. -/
def settleItems? : List Value → Option (List Value)
  | [] => some []
  | item :: rest => do
    let item ← item.settle?
    let rest ← settleItems? rest
    some (item :: rest)
termination_by structural items => items

/-- The keys and values of a mapping, settled. -/
def settleEntries? : Entries → Option Entries
  | [] => some []
  | (key, value) :: rest => do
    let key ← key.settle?
    let value ← value.settle?
    let rest ← settleEntries? rest
    some ((key, value) :: rest)
termination_by structural entries => entries

end

end ForeignBindings.Value
