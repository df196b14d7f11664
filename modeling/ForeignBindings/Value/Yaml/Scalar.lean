import ForeignBindings.Value.Number

/-!
# Scalars of YAML

How plain and quoted scalars are read. A gap of blanks and line breaks inside a
scalar is folded: without a break it stays as it is, a single break becomes a
space, and of several breaks the first one goes.
-/

namespace ForeignBindings.Yaml

/-- A character with its place in the text. -/
structure Placed where
  character : Char
  line : Nat
  column : Nat
  /-- The number of bytes in front of it on its line. -/
  offset : Nat
deriving DecidableEq, Repr, Inhabited

/-- Whether a character ends a line, once line ends have one form. -/
def isBreak (character : Char) : Bool :=
  character == '\n' || character == '\u2028' || character == '\u2029'

/-- Whether a character is a space or a tab. -/
def isBlank (character : Char) : Bool := character == ' ' || character == '\t'

/-- Whether a character belongs to a gap. -/
def isGap (character : Char) : Bool := isBlank character || isBreak character

/-- Whether a character may occur in a document. -/
def isAllowed (character : Char) : Bool :=
  let code := character.toNat
  code == 0x9 || code == 0xA || code == 0xD || (0x20 ≤ code && code ≤ 0x7E) || code == 0x85 ||
    (0xA0 ≤ code && code ≤ 0xFFFD) || 0x10000 ≤ code

/-- The text with line ends in one form. -/
def unifyBreaks : List Char → List Char
  | [] => []
  | '\r' :: '\n' :: rest => '\n' :: unifyBreaks rest
  | character :: rest =>
    (if character = '\r' || character = '\u0085' then '\n' else character) :: unifyBreaks rest

/-- The characters of a text with their places, from a place on. -/
def place (line column offset : Nat) : List Char → List Placed
  | [] => []
  | character :: rest =>
    ⟨character, line, column, offset⟩ ::
      if isBreak character then place (line + 1) 0 0 rest
      else place line (column + 1) (offset + character.utf8Size) rest

/-- Whether a gap or the end of the text comes next. -/
def startsGap : List Placed → Bool
  | [] => true
  | next :: _ => isGap next.character

/-- Whether one of the listed characters comes next. -/
def startsWith (characters : List Char) : List Placed → Bool
  | [] => false
  | next :: _ => characters.contains next.character

/-- Whether a marker of a document, which is three times the same character at the beginning
of a line, comes next. -/
def startsMarker (character : Char) : List Placed → Bool
  | first :: second :: third :: rest =>
    first.column == 0 && first.character == character && second.character == character &&
      third.character == character && startsGap rest
  | _ => false

/-- Whether a document starts or ends here. -/
def startsDocument (text : List Placed) : Bool := startsMarker '-' text || startsMarker '.' text

/-- What a gap inside a scalar stands for. -/
def foldGap (gap : List Char) : List Char :=
  match gap.filter isBreak with
  | [] => gap
  | [single] => if single = '\n' then [' '] else [single]
  | first :: others => if first = '\n' then others else first :: others

/-- The characters that have a meaning of their own between brackets. -/
def flowIndicators : List Char := [',', '[', ']', '\x7b', '\x7d']

/-- Whether a plain scalar ends in front of the text, which starts behind the gap. Between
brackets indentation does not count. -/
def endsPlain (inFlow : Bool) (indent : Nat) (gap : List Char) (next : Placed)
    (rest : List Placed) : Bool :=
  (!gap.isEmpty &&
    (next.character == '#' || (!inFlow && next.column < indent) ||
      startsDocument (next :: rest))) ||
    (next.character == ':' && startsGap rest) ||
    (inFlow && flowIndicators.contains next.character)

/-- A plain scalar as it was read: its text, whether a line end stands behind it, and what
follows. -/
structure PlainScalar where
  text : String
  endsLine : Bool
  rest : List Placed

/-- Reads a plain scalar whose lines are indented by `indent` at least. What was read and the
gap since then come last character first. -/
def readPlain (inFlow : Bool) (indent : Nat) (read gap : List Char) :
    List Placed → Option PlainScalar
  | [] => some ⟨String.ofList read.reverse, gap.any isBreak, []⟩
  | next :: rest =>
    if isGap next.character then
      if next.character = '\t' && gap.any isBreak && next.column < indent then none
      else readPlain inFlow indent read (next.character :: gap) rest
    else if endsPlain inFlow indent gap next rest then
      some ⟨String.ofList read.reverse, gap.any isBreak, next :: rest⟩
    else if inFlow && next.character == ':' && startsWith ('?' :: flowIndicators) rest then none
    else
      readPlain inFlow indent (next.character :: (foldGap gap.reverse).reverse ++ read) [] rest

/-- Reads a scalar in single quotes, in which a quote is written twice. -/
def readSingleQuoted (read gap : List Char) : List Placed → Option (String × List Placed)
  | [] => none
  | next :: rest =>
    if isGap next.character then readSingleQuoted read (next.character :: gap) rest
    else if startsDocument (next :: rest) then none
    else
      let read := (foldGap gap.reverse).reverse ++ read
      if next.character = '\'' then
        match rest with
        | second :: behind =>
          if second.character = '\'' then readSingleQuoted ('\'' :: read) [] behind
          else some (String.ofList read.reverse, rest)
        | [] => some (String.ofList read.reverse, rest)
      else readSingleQuoted (next.character :: read) [] rest

/-- The character that a letter behind a backslash stands for. -/
def escaped? : Char → Option Char
  | '0' => some (Char.ofNat 0)
  | 'a' => some (Char.ofNat 7)
  | 'b' => some (Char.ofNat 8)
  | 't' | '\t' => some '\t'
  | 'n' => some '\n'
  | 'v' => some (Char.ofNat 11)
  | 'f' => some (Char.ofNat 12)
  | 'r' => some '\r'
  | 'e' => some (Char.ofNat 27)
  | ' ' => some ' '
  | '"' => some '"'
  | '/' => some '/'
  | '\\' => some '\\'
  | 'N' => some '\u0085'
  | '_' => some '\u00a0'
  | 'L' => some '\u2028'
  | 'P' => some '\u2029'
  | _ => none

/-- The character whose code point the digits denote. -/
def codePoint? (digits : List Placed) : Option Char := do
  let number ← Value.number? 16 (digits.map Placed.character)
  if number.isValidChar then some (Char.ofNat number) else none

/-- What a gap behind an escaped line end stands for: its blanks do not count. -/
def foldContinued (gap : List Char) : List Char := gap.filter isBreak

/-- Reads a scalar in double quotes. Behind an escaped line end, `continued` holds until the
next character that is not in a gap. -/
def readDoubleQuoted (read gap : List Char) (continued : Bool) :
    List Placed → Option (String × List Placed)
  | [] => none
  | next :: rest =>
    if isGap next.character then readDoubleQuoted read (next.character :: gap) continued rest
    else if startsDocument (next :: rest) then none
    else
      let fold := if continued then foldContinued else foldGap
      let read := (fold gap.reverse).reverse ++ read
      match next.character, rest with
      | '"', rest => some (String.ofList read.reverse, rest)
      | '\\', [] => none
      | '\\', letter :: rest =>
        if isBreak letter.character then readDoubleQuoted read [] true rest
        else match letter.character, rest with
          | 'x', first :: second :: rest => do
            let character ← codePoint? [first, second]
            readDoubleQuoted (character :: read) [] false rest
          | 'u', first :: second :: third :: fourth :: rest => do
            let character ← codePoint? [first, second, third, fourth]
            readDoubleQuoted (character :: read) [] false rest
          | 'U', first :: second :: third :: fourth :: fifth :: sixth :: seventh :: eighth ::
              rest => do
            let character ← codePoint?
              [first, second, third, fourth, fifth, sixth, seventh, eighth]
            readDoubleQuoted (character :: read) [] false rest
          | character, rest => do
            let character ← escaped? character
            readDoubleQuoted (character :: read) [] false rest
      | character, rest => readDoubleQuoted (character :: read) [] false rest

end ForeignBindings.Yaml
