import ForeignBindings.Value.Plain
import ForeignBindings.Value.Yaml.Scalar

/-!
# Writing YAML

Values in block style: an entry or an item a line, two spaces for a level, and
sequences at the indentation of their key. A text stands without quotes if it
reads back as the same text, and a text of several lines stands in a block. A key
that is long or has several lines is marked by a `?`.
-/

namespace ForeignBindings.Yaml

/-- Whether a plain scalar of that text would be read as something else than the text. -/
def isAmbiguous (text : String) : Bool :=
  Value.isPaddedNumber text ||
    match Value.settlePlain? text with
    | some (.text _) => false
    | _ => true

/-- Whether a character is written as it is. -/
def isPrintable (character : Char) : Bool :=
  let code := character.toNat
  code == 0xA || (0x20 ≤ code && code ≤ 0x7E) ||
    (0xA0 ≤ code && code != 0xFEFF && code != 0xFFFE && code != 0xFFFF)

/-- Whether a character breaks a line of a text, also where line ends have several forms. -/
def breaksLine (character : Char) : Bool :=
  isBreak character || character == '\r' || character == '\u0085'

/-! ## Which styles a text allows -/

/-- The characters that no plain scalar starts with. -/
def leadingIndicators : List Char :=
  ['#', ',', '[', ']', '\x7b', '\x7d', '&', '*', '!', '|', '>', '\'', '"', '%', '@', '\x60']

/-- Whether a colon or a comment inside a text would end a plain scalar. -/
def hasInnerIndicator : List Char → Bool
  | [] => false
  | [':'] => true
  | ':' :: next :: rest => isGap next || hasInnerIndicator (next :: rest)
  | blank :: '#' :: rest => isGap blank || hasInnerIndicator ('#' :: rest)
  | _ :: rest => hasInnerIndicator rest

/-- Whether the beginning of a text would start something else than a plain scalar. -/
def hasLeadingIndicator : List Char → Bool
  | '-' :: '-' :: '-' :: _ | '.' :: '.' :: '.' :: _ => true
  | [first] => leadingIndicators.contains first || ['?', ':', '-'].contains first
  | first :: second :: _ =>
    leadingIndicators.contains first || (['?', ':', '-'].contains first && isGap second)
  | [] => false

/-- Whether a character of the one kind stands directly in front of one of the other. -/
def hasPair (first second : Char → Bool) : List Char → Bool
  | left :: right :: rest =>
    (first left && second right) || hasPair first second (right :: rest)
  | _ => false

/-- Whether a text has a space in front of a break. -/
def hasSpaceBeforeBreak : List Char → Bool := hasPair (· == ' ') breaksLine

/-- Whether a text has a space behind a break. -/
def hasSpaceBehindBreak : List Char → Bool := hasPair breaksLine (· == ' ')

/-- Whether a text may be written without quotes. -/
def allowsPlain (text : List Char) : Bool :=
  text.all isPrintable && !text.any breaksLine && text.head? != some ' ' &&
    text.getLast? != some ' ' && !hasLeadingIndicator text && !hasInnerIndicator text

/-- Whether a text may be written in single quotes. -/
def allowsSingleQuotes (text : List Char) : Bool :=
  text.all isPrintable && !hasSpaceBeforeBreak text && !hasSpaceBehindBreak text

/-- Whether a text may be written as a block of lines. -/
def allowsBlock (text : List Char) : Bool :=
  text.all isPrintable && text.getLast? != some ' ' && !hasSpaceBeforeBreak text

/-- A way to write a text. -/
inductive Style where
  | plain
  | singleQuoted
  | doubleQuoted
  | block
deriving DecidableEq, Repr, Inhabited

/-- The style of a text. Blocks are for texts with line feeds. -/
def Style.ofText (text : String) : Style :=
  let characters := text.toList
  if characters.contains '\n' then if allowsBlock characters then block else doubleQuoted
  else if !isAmbiguous text && allowsPlain characters then plain
  else if allowsSingleQuotes characters then singleQuoted
  else doubleQuoted

/-! ## Scalars -/

/-- The last digits of a number in base sixteen. -/
def hexDigits : (count : Nat) → Nat → List Char
  | 0, _ => []
  | count + 1, number =>
    let digit := number % 16
    hexDigits count (number / 16) ++
      [if digit < 10 then Char.ofNat ('0'.toNat + digit) else Char.ofNat ('A'.toNat + (digit - 10))]

/-- The letter behind a backslash that stands for a character. -/
def escapeLetter? (character : Char) : Option Char :=
  match character.toNat with
  | 0x00 => some '0'
  | 0x07 => some 'a'
  | 0x08 => some 'b'
  | 0x09 => some 't'
  | 0x0A => some 'n'
  | 0x0B => some 'v'
  | 0x0C => some 'f'
  | 0x0D => some 'r'
  | 0x1B => some 'e'
  | 0x22 => some '"'
  | 0x5C => some '\\'
  | 0x85 => some 'N'
  | 0x2028 => some 'L'
  | 0x2029 => some 'P'
  | _ => none

/-- A character in double quotes. -/
def escape (character : Char) : List Char :=
  match escapeLetter? character with
  | some letter => ['\\', letter]
  | none =>
    let code := character.toNat
    if isPrintable character then [character]
    else if code ≤ 0xFF then '\\' :: 'x' :: hexDigits 2 code
    else if code ≤ 0xFFFF then '\\' :: 'u' :: hexDigits 4 code
    else '\\' :: 'U' :: hexDigits 8 code

/-- The spaces in front of a column. -/
def spaces (column : Nat) : List Char := List.replicate column ' '

/-- The start of a line up to a column. -/
def margin (column : Nat) : String := String.ofList (spaces column)

/-- The inside of single quotes, in which a quote is written twice. What follows a break is
indented, as is the closing quote. -/
def singleQuotedText (indent : Nat) (isBehindBreak : Bool) : List Char → List Char
  | [] => if isBehindBreak then spaces indent else []
  | character :: rest =>
    if breaksLine character then character :: singleQuotedText indent true rest
    else
      (if isBehindBreak then spaces indent else []) ++
        (if character = '\'' then ['\'', '\''] else [character]) ++
        singleQuotedText indent false rest

/-- The lines of a block. A line that is not empty is indented. -/
def blockText (indent : Nat) (isBehindBreak : Bool) : List Char → List Char
  | [] => []
  | character :: rest =>
    if breaksLine character then character :: blockText indent true rest
    else
      (if isBehindBreak then spaces indent else []) ++
        character :: blockText indent false rest

/-- The number behind the marker of a block that tells its indentation, if the block does not
start with a character that shows it. -/
def indentationHint (text : List Char) : List Char :=
  match text with
  | first :: _ => if first == ' ' || breaksLine first then ['2'] else []
  | [] => []

/-- The sign behind the marker of a block that tells what breaks it ends with: none, a single
one behind other text, which is the rule, or others. -/
def endHint (text : List Char) : List Char :=
  match text.reverse with
  | [] => ['-']
  | [last] => if breaksLine last then ['+'] else ['-']
  | last :: previous :: _ =>
    if !breaksLine last then ['-'] else if breaksLine previous then ['+'] else []

/-- A text as a scalar whose further lines are indented. -/
def textScalar (indent : Nat) (text : String) : String :=
  let characters := text.toList
  match Style.ofText text with
  | .plain => text
  | .singleQuoted => "'" ++ String.ofList (singleQuotedText indent false characters) ++ "'"
  | .doubleQuoted => "\"" ++ String.ofList (characters.flatMap escape) ++ "\""
  | .block =>
    "|" ++ String.ofList (indentationHint characters ++ endHint characters) ++ "\n" ++
      String.ofList (blockText indent true characters)

/-- A value without parts, the further lines of which are indented. -/
def scalarText (indent : Nat) : Value → String
  | .null | .unusable => "null"
  | .boolean truth => if truth then "true" else "false"
  | .natural number => toString number
  | .negative magnitude => "-" ++ toString magnitude
  | .decimal spelling | .plain spelling => spelling
  | .text text => textScalar indent text
  | .sequence _ => "[]"
  | .mapping _ => "\x7b\x7d"

/-! ## Documents -/

/-- A scalar with the end of its line. A block may have ended it already. -/
def endLine (scalar : String) : String :=
  match scalar.toList.getLast? with
  | some last => if breaksLine last then scalar else scalar ++ "\n"
  | none => "\n"

/-- The greatest number of bytes of a key that stands in front of a `:` on its line. -/
def longestKey : Nat := 128

/-- Whether a key may stand in front of a `:` on its line. -/
def isSimpleKey : Value → Bool
  | .text text => text.utf8ByteSize ≤ longestKey && !text.toList.any breaksLine
  | .sequence items => items.isEmpty
  | .mapping entries => entries.isEmpty
  | key => (scalarText 0 key).utf8ByteSize ≤ longestKey

/-- The items or entries of a collection, of which the first one stands in the column already
and the others on lines of their own. -/
def aligned (column : Nat) (parts : List String) : String :=
  String.intercalate (margin column) parts

mutual

/-- A value that starts in a column, up to the end of its last line. -/
def valueText (column : Nat) : Value → String
  | .sequence (item :: items) => aligned column (itemTexts column (item :: items))
  | .mapping (entry :: entries) => aligned column (entryTexts column (entry :: entries))
  | value => endLine (scalarText column value)
termination_by structural value => value

/-- The items of a sequence whose markers stand in a column. -/
def itemTexts (column : Nat) : List Value → List String
  | [] => []
  | item :: rest => ("- " ++ valueText (column + 2) item) :: itemTexts column rest
termination_by structural items => items

/-- The entries of a mapping whose keys stand in a column. -/
def entryTexts (column : Nat) : Value.Entries → List String
  | [] => []
  | (key, value) :: rest =>
    let entry :=
      if isSimpleKey key then
        let start := scalarText column key ++ ":"
        match value with
        | .sequence (_ :: _) => start ++ "\n" ++ margin column ++ valueText column value
        | .mapping (_ :: _) =>
          start ++ "\n" ++ margin (column + 2) ++ valueText (column + 2) value
        | _ => start ++ " " ++ valueText (column + 2) value
      else
        "? " ++ valueText (column + 2) key ++ margin column ++ ": " ++
          valueText (column + 2) value
    entry :: entryTexts column rest
termination_by structural entries => entries

end

/-- A value as a document. -/
def write (value : Value) : String :=
  match value with
  | .sequence _ | .mapping _ => valueText 0 value
  | scalar => valueText 2 scalar

end ForeignBindings.Yaml
