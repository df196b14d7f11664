import ForeignBindings.Value

/-!
# Writing JSON

Values as JSON texts, on one line or with one entry a line.
-/

namespace ForeignBindings.Json

/-- A digit of a number in base sixteen. -/
def hexDigit (digit : Nat) : Char :=
  if digit < 10 then Char.ofNat ('0'.toNat + digit) else Char.ofNat ('a'.toNat + (digit - 10))

/-- A character inside a text: quotes, backslashes and control characters are escaped. -/
def escape (character : Char) : List Char :=
  match character with
  | '"' => ['\\', '"']
  | '\\' => ['\\', '\\']
  | '\n' => ['\\', 'n']
  | '\r' => ['\\', 'r']
  | '\t' => ['\\', 't']
  | _ =>
    let code := character.toNat
    if code = 8 then ['\\', 'b']
    else if code = 12 then ['\\', 'f']
    else if code < 0x20 then
      ['\\', 'u', '0', '0', hexDigit (code / 16), hexDigit (code % 16)]
    else [character]

/-- A text in quotes. -/
def quote (text : String) : String :=
  "\"" ++ String.ofList (text.toList.flatMap escape) ++ "\""

/-- The text of a value that has no parts. What is of no use is written as nothing. -/
def scalarText : Value → String
  | .null | .unusable => "null"
  | .boolean truth => if truth then "true" else "false"
  | .natural number => toString number
  | .negative magnitude => "-" ++ toString magnitude
  | .decimal spelling => spelling
  | .text text | .plain text => quote text
  | .sequence _ | .mapping _ => ""

/-- A key, which is always a text; any other scalar is written as the text that it is spelled
with. -/
def keyText : Value → String
  | .text text | .plain text => quote text
  | key => quote (scalarText key)

mutual

/-- A value on one line, without any space. -/
def compact : Value → String
  | .sequence items => "[" ++ compactItems items ++ "]"
  | .mapping entries => "\x7b" ++ compactEntries entries ++ "\x7d"
  | value => scalarText value
termination_by structural value => value

/-- Items with commas between them. -/
def compactItems : List Value → String
  | [] => ""
  | [item] => compact item
  | item :: next :: rest => compact item ++ "," ++ compactItems (next :: rest)
termination_by structural items => items

/-- Entries with commas between them. -/
def compactEntries : Value.Entries → String
  | [] => ""
  | [(key, value)] => keyText key ++ ":" ++ compact value
  | (key, value) :: next :: rest =>
    keyText key ++ ":" ++ compact value ++ "," ++ compactEntries (next :: rest)
termination_by structural entries => entries

end

/-- The start of a line at a nesting depth. -/
def lineStart (depth : Nat) : String := "\n" ++ String.ofList (List.replicate (2 * depth) ' ')

mutual

/-- A value with each part on a line of its own, indented by two spaces a level. -/
def pretty (depth : Nat) : Value → String
  | .sequence [] => "[]"
  | .sequence (item :: items) =>
    "[" ++ prettyItems (depth + 1) (item :: items) ++ lineStart depth ++ "]"
  | .mapping [] => "\x7b\x7d"
  | .mapping (entry :: entries) =>
    "\x7b" ++ prettyEntries (depth + 1) (entry :: entries) ++ lineStart depth ++ "\x7d"
  | value => scalarText value
termination_by structural value => value

/-- Items on lines of their own. -/
def prettyItems (depth : Nat) : List Value → String
  | [] => ""
  | [item] => lineStart depth ++ pretty depth item
  | item :: next :: rest =>
    lineStart depth ++ pretty depth item ++ "," ++ prettyItems depth (next :: rest)
termination_by structural items => items

/-- Entries on lines of their own. -/
def prettyEntries (depth : Nat) : Value.Entries → String
  | [] => ""
  | [(key, value)] => lineStart depth ++ keyText key ++ ": " ++ pretty depth value
  | (key, value) :: next :: rest =>
    lineStart depth ++ keyText key ++ ": " ++ pretty depth value ++ "," ++
      prettyEntries depth (next :: rest)
termination_by structural entries => entries

end

end ForeignBindings.Json
