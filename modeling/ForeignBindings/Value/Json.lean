import ForeignBindings.Value.Number
import ForeignBindings.Value

/-!
# Reading JSON

A strict reader of JSON texts. A number without fraction and exponent that fits
into 64 bits is an integer; of other numbers the reader keeps only the spelling.
A text with an escaped surrogate that is not one of a pair, and a number that is
beyond double precision, are well formed but of no use.
-/

namespace ForeignBindings.Json

/-- Whether a character may stand between the parts of a value. -/
def isSpace (character : Char) : Bool :=
  character == ' ' || character == '\t' || character == '\n' || character == '\r'

/-- The text without the space at its beginning. -/
def skip (text : List Char) : List Char := text.dropWhile isSpace

/-- The character that a letter behind a backslash stands for. -/
def escaped? : Char → Option Char
  | '"' => some '"'
  | '\\' => some '\\'
  | '/' => some '/'
  | 'b' => some (Char.ofNat 8)
  | 'f' => some (Char.ofNat 12)
  | 'n' => some '\n'
  | 'r' => some '\r'
  | 't' => some '\t'
  | _ => none

/-- The number of the four digits behind an escape. -/
def unit? (first second third fourth : Char) : Option Nat :=
  Value.number? 16 [first, second, third, fourth]

/-- Whether a code unit opens a surrogate pair. -/
def isHighSurrogate (unit : Nat) : Bool := 0xD800 ≤ unit && unit ≤ 0xDBFF

/-- Whether a code unit closes a surrogate pair. -/
def isLowSurrogate (unit : Nat) : Bool := 0xDC00 ≤ unit && unit ≤ 0xDFFF

/-- The character of a surrogate pair. -/
def pairCharacter (high low : Nat) : Char :=
  Char.ofNat (0x10000 + (high - 0xD800) * 0x400 + (low - 0xDC00))

/-- What was read of a text when no partner of a surrogate comes next: the text is of no use if
one is missing. -/
def withoutPartner (read : Option (List Char)) (high : Option Nat) : Option (List Char) :=
  if high.isSome then none else read

/-- Reads a text up to its closing quote; `read` is what was read of it, last first, unless
it is of no use already, and `high` is a surrogate that still lacks its partner. -/
def readText (read : Option (List Char)) (high : Option Nat) :
    List Char → Option (Value × List Char)
  | [] => none
  | '"' :: rest =>
    match withoutPartner read high with
    | some read => some (.text (String.ofList read.reverse), rest)
    | none => some (.unusable, rest)
  | '\\' :: 'u' :: first :: second :: third :: fourth :: rest => do
    let unit ← unit? first second third fourth
    match high with
    | some high =>
      if isLowSurrogate unit then readText (read.map (pairCharacter high unit :: ·)) none rest
      else readText none none rest
    | none =>
      if isHighSurrogate unit then readText read (some unit) rest
      else if isLowSurrogate unit then readText none none rest
      else readText (read.map (Char.ofNat unit :: ·)) none rest
  | '\\' :: letter :: rest => do
    let character ← escaped? letter
    readText ((withoutPartner read high).map (character :: ·)) none rest
  | character :: rest =>
    if character.toNat < 0x20 then none
    else readText ((withoutPartner read high).map (character :: ·)) none rest

/-- Reads the digits of a number, of which there has to be one at least. -/
def readDigits (text : List Char) : Option (List Char × List Char) :=
  let digits := text.takeWhile Char.isDigit
  if digits.isEmpty then none else some (digits, text.dropWhile Char.isDigit)

/-- Reads the fraction of a number, if it has one. -/
def readFraction : List Char → Option (List Char × List Char)
  | '.' :: text => do
    let (digits, rest) ← readDigits text
    return ('.' :: digits, rest)
  | text => some ([], text)

/-- Reads the exponent of a number, if it has one. -/
def readExponent : List Char → Option (List Char × List Char)
  | marker :: text =>
    if marker == 'e' || marker == 'E' then
      match text with
      | '+' :: text => do
        let (digits, rest) ← readDigits text
        return (marker :: '+' :: digits, rest)
      | '-' :: text => do
        let (digits, rest) ← readDigits text
        return (marker :: '-' :: digits, rest)
      | text => do
        let (digits, rest) ← readDigits text
        return (marker :: digits, rest)
    else some ([], marker :: text)
  | [] => some ([], [])

/-- An integer that fits into 64 bits. Minus zero counts as a decimal number. -/
def integer? (negative : Bool) (whole : List Char) : Option Value := do
  let number ← Value.number? 10 whole
  if negative then
    if number != 0 && number ≤ Nat.pow 2 63 then some (.negative number) else none
  else if number < Nat.pow 2 64 then some (.natural number)
  else none

/-- The exponent of a number, from its spelling with the marker. -/
def exponentOf : List Char → Int
  | [] => 0
  | _ :: '-' :: digits => -Int.ofNat ((Value.number? 10 digits).getD 0)
  | _ :: '+' :: digits => Int.ofNat ((Value.number? 10 digits).getD 0)
  | _ :: digits => Int.ofNat ((Value.number? 10 digits).getD 0)

/-- Reads a number behind its sign. A number that starts with a zero has no other digit
before its fraction. -/
def readMagnitude (negative : Bool) (text : List Char) : Option (Value × List Char) := do
  let (whole, rest) ← readDigits text
  if whole.length > 1 && whole.head? == some '0' then none
  let (fraction, rest) ← readFraction rest
  let (exponent, rest) ← readExponent rest
  let isWhole := fraction.isEmpty && exponent.isEmpty
  match if isWhole then integer? negative whole else none with
  | some value => return (value, rest)
  | none =>
    let places := fraction.drop 1
    let power := exponentOf exponent - Int.ofNat places.length
    let sign := if negative then ['-'] else []
    let spelling := String.ofList (sign ++ whole ++ fraction ++ exponent)
    let isFinite := Value.isFiniteProduct (whole ++ places) power
    return (if isFinite then .decimal spelling else .unusable, rest)

/-- Reads a number. -/
def readNumber : List Char → Option (Value × List Char)
  | '-' :: text => readMagnitude true text
  | text => readMagnitude false text

mutual

/-- Reads a value; `fuel` bounds the steps that are taken. -/
def readValue : (fuel : Nat) → List Char → Option (Value × List Char)
  | 0, _ => none
  | fuel + 1, text =>
    match skip text with
    | '\x7b' :: rest =>
      match skip rest with
      | '\x7d' :: rest => some (.mapping [], rest)
      | _ => (readEntries fuel rest).map fun (entries, rest) => (.mapping entries, rest)
    | '[' :: rest =>
      match skip rest with
      | ']' :: rest => some (.sequence [], rest)
      | _ => (readItems fuel rest).map fun (items, rest) => (.sequence items, rest)
    | '"' :: rest => readText (some []) none rest
    | 't' :: 'r' :: 'u' :: 'e' :: rest => some (.boolean true, rest)
    | 'f' :: 'a' :: 'l' :: 's' :: 'e' :: rest => some (.boolean false, rest)
    | 'n' :: 'u' :: 'l' :: 'l' :: rest => some (.null, rest)
    | text => readNumber text

/-- Reads the items of a sequence up to its end. -/
def readItems : (fuel : Nat) → List Char → Option (List Value × List Char)
  | 0, _ => none
  | fuel + 1, text => do
    let (first, rest) ← readValue fuel text
    match skip rest with
    | ',' :: rest => do
      let (others, rest) ← readItems fuel rest
      return (first :: others, rest)
    | ']' :: rest => return ([first], rest)
    | _ => none

/-- Reads the entries of a mapping up to its end. -/
def readEntries : (fuel : Nat) → List Char → Option (Value.Entries × List Char)
  | 0, _ => none
  | fuel + 1, text =>
    match skip text with
    | '"' :: rest => do
      let (key, rest) ← readText (some []) none rest
      match skip rest with
      | ':' :: rest => do
        let (value, rest) ← readValue fuel rest
        match skip rest with
        | ',' :: rest => do
          let (others, rest) ← readEntries fuel rest
          return ((key, value) :: others, rest)
        | '\x7d' :: rest => return ([(key, value)], rest)
        | _ => none
      | _ => none
    | _ => none

end

/-- Reads a JSON text. Every step consumes a character or is followed by one that does, so
two steps a character suffice. -/
def read? (text : String) : Option Value := do
  let characters := text.toList
  let (value, rest) ← readValue (2 * characters.length + 2) characters
  if (skip rest).isEmpty then some value else none

end ForeignBindings.Json
