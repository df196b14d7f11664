import ForeignBindings.Value
import ForeignBindings.Value.Yaml.Scalar

/-!
# Tokens of YAML

The tokens of a document, in which indentation has become explicit: a block
collection starts with a token of its own and ends with one. A key is known only
by the `:` behind it, so that the tokens for the key, and for the mapping that it
may start, are put in front of what was read since.
-/

namespace ForeignBindings.Yaml

/-- A token of a document. -/
inductive Token where
  | blockSequence
  | blockMapping
  | blockEnd
  | flowSequence
  | flowSequenceEnd
  | flowMapping
  | flowMappingEnd
  /-- The `-` of an item. -/
  | item
  /-- The `,` between items or entries. -/
  | separator
  | key
  | value
  | scalar (value : Value)
  | documentStart
  | documentEnd
deriving Repr, Inhabited

/-- A place where a key may have started. -/
structure KeyStart where
  /-- The number of tokens in front of it. -/
  index : Nat
  line : Nat
  column : Nat
  /-- The number of bytes in front of it on its line. -/
  offset : Nat
  /-- In its column stand the keys of a mapping, so that a key has to start here. -/
  isRequired : Bool
deriving DecidableEq, Repr, Inhabited

/-- The greatest distance between the start of a key and its `:`, in bytes. -/
def keyReach : Nat := 1024

/-- Whether a `:` at a place may belong to the key. A key stands on one line. -/
def KeyStart.reaches (start : KeyStart) (place : Placed) : Bool :=
  start.line == place.line && place.offset ≤ start.offset + keyReach

/-- The tokens read so far, with what decides about the tokens to come. -/
structure Scan where
  /-- The tokens, last first. -/
  tokens : List Token := []
  count : Nat := 0
  /-- The columns of the open block collections, innermost first. -/
  indents : List Nat := []
  /-- The last place where a key may have started inside the innermost brackets. -/
  keyStart : Option KeyStart := none
  /-- The same for each pair of brackets that encloses these, innermost first. -/
  outerStarts : List (Option KeyStart) := []
  /-- Whether a key may start here. -/
  allowsKey : Bool := true
deriving Repr, Inhabited

namespace Scan

/-- Whether the text is inside brackets. -/
def inFlow (scan : Scan) : Bool := !scan.outerStarts.isEmpty

/-- The least indentation of the lines of a plain scalar. -/
def scalarIndent (scan : Scan) : Nat :=
  match scan.indents with
  | [] => 0
  | innermost :: _ => innermost + 1

/-- Adds a token. -/
def emit (scan : Scan) (token : Token) : Scan :=
  { scan with tokens := token :: scan.tokens, count := scan.count + 1 }

/-- Puts tokens, given last first, behind the first `index` ones. -/
def insert (scan : Scan) (index : Nat) (tokens : List Token) : Scan :=
  let since := scan.count - index
  { scan with
    tokens := scan.tokens.take since ++ tokens ++ scan.tokens.drop since
    count := scan.count + tokens.length }

/-- Whether a block collection in a column would be nested in the innermost one. -/
def isDeeper (scan : Scan) (column : Nat) : Bool :=
  match scan.indents with
  | [] => true
  | innermost :: _ => innermost < column

/-- Opens a block collection in a column, unless it is open already or inside brackets. -/
def openBlock (scan : Scan) (column : Nat) (start : Token) : Scan :=
  if !scan.inFlow && scan.isDeeper column then
    { scan.emit start with indents := column :: scan.indents }
  else scan

/-- Ends the first `number` block collections. -/
def endBlocks (scan : Scan) (number : Nat) : Scan :=
  { scan with
    tokens := List.replicate number .blockEnd ++ scan.tokens
    count := scan.count + number
    indents := scan.indents.drop number }

/-- Ends the block collections that are indented further than a column. -/
def closeBlocks (scan : Scan) (column : Nat) : Scan :=
  if scan.inFlow then scan
  else scan.endBlocks (scan.indents.takeWhile (column < ·)).length

/-- Ends all block collections. -/
def closeAllBlocks (scan : Scan) : Scan :=
  if scan.inFlow then scan else scan.endBlocks scan.indents.length

/-- Gives up the place where a key may have started; one that is required may not be given
up. -/
def dropKey (scan : Scan) : Option Scan :=
  match scan.keyStart with
  | none => some scan
  | some start => if start.isRequired then none else some { scan with keyStart := none }

/-- Remembers a place where a key may start. -/
def markKey (scan : Scan) (place : Placed) : Option Scan :=
  if scan.allowsKey then do
    let scan ← scan.dropKey
    let isRequired := !scan.inFlow && scan.indents.head? == some place.column
    some { scan with
      keyStart := some ⟨scan.count, place.line, place.column, place.offset, isRequired⟩ }
  else some scan

/-- Opens brackets. -/
def openFlow (scan : Scan) (place : Placed) (token : Token) : Option Scan := do
  let scan ← scan.markKey place
  let scan := scan.emit token
  some { scan with
    keyStart := none
    outerStarts := scan.keyStart :: scan.outerStarts
    allowsKey := true }

/-- Closes brackets. Whether they were open, and of the same kind, is for the reader of the
tokens to see. -/
def closeFlow (scan : Scan) (token : Token) : Option Scan := do
  let scan := { (← scan.dropKey).emit token with allowsKey := false }
  match scan.outerStarts with
  | [] => some scan
  | keyStart :: outerStarts => some { scan with keyStart, outerStarts }

/-- Adds the token between two items or entries in brackets. -/
def separate (scan : Scan) : Option Scan := do
  let scan ← scan.dropKey
  some { scan.emit .separator with allowsKey := true }

/-- Adds the token of an item, which may start a block sequence. -/
def startItem (scan : Scan) (place : Placed) : Option Scan := do
  if !scan.inFlow && !scan.allowsKey then none
  let scan ← (scan.openBlock place.column .blockSequence).dropKey
  some { scan.emit .item with allowsKey := true }

/-- Adds the token of a key that is marked by a `?`. -/
def startMarkedKey (scan : Scan) (place : Placed) : Option Scan := do
  if !scan.inFlow && !scan.allowsKey then none
  let scan ← (scan.openBlock place.column .blockMapping).dropKey
  some { scan.emit .key with allowsKey := !scan.inFlow }

/-- Adds the token of a value without a key on the same line. -/
def startLoneValue (scan : Scan) (place : Placed) : Option Scan := do
  if !scan.inFlow && !scan.allowsKey then none
  let scan := scan.openBlock place.column .blockMapping
  some { scan.emit .value with allowsKey := !scan.inFlow }

/-- Adds the token of a value behind its key, and in front of it the token of the key. -/
def startKeyedValue (scan : Scan) (start : KeyStart) : Scan :=
  let opens := !scan.inFlow && scan.isDeeper start.column
  let scan := scan.insert start.index (if opens then [.key, .blockMapping] else [.key])
  let indents := if opens then start.column :: scan.indents else scan.indents
  { scan.emit .value with indents, keyStart := none, allowsKey := false }

/-- Adds the token of a value. -/
def startValue (scan : Scan) (place : Placed) : Option Scan :=
  match scan.keyStart with
  | none => scan.startLoneValue place
  | some start =>
    if start.reaches place then some (scan.startKeyedValue start)
    else if start.isRequired then none
    else { scan with keyStart := none }.startLoneValue place

/-- Adds the token of a marker of a document, which ends all block collections. -/
def startDocument (scan : Scan) (token : Token) : Option Scan := do
  let scan ← scan.closeAllBlocks.dropKey
  some { scan.emit token with allowsKey := false }

/-- Adds the token of a scalar. -/
def addScalar (scan : Scan) (value : Value) (allowsKey : Bool) : Scan :=
  { scan.emit (.scalar value) with allowsKey }

/-- The characters that start no plain scalar, except for `-`, `?` and `:` before certain
others. -/
def indicators : List Char :=
  ['-', '?', ':', ',', '[', ']', '\x7b', '\x7d', '#', '&', '*', '!', '|', '>', '\'', '"', '%',
    '@', '\x60']

/-- Whether a plain scalar starts with a character in front of a text. None starts with a tab,
which is what a place where a key may start does not skip. -/
def startsPlain (scan : Scan) (character : Char) (rest : List Placed) : Bool :=
  (!indicators.contains character && !isGap character) ||
    (character == '-' && !startsGap rest) ||
    (!scan.inFlow && (character == '?' || character == ':') && !startsGap rest)

/-- Reads one token that starts with a character; the result has what follows. -/
def token (scan : Scan) (next : Placed) (rest : List Placed) :
    Option (Scan × List Placed) :=
  let isSeparate := scan.inFlow || startsGap rest
  if startsMarker '-' (next :: rest) then do
    some (← scan.startDocument .documentStart, rest.drop 2)
  else if startsMarker '.' (next :: rest) then do
    some (← scan.startDocument .documentEnd, rest.drop 2)
  else match next.character with
    | '[' => do some (← scan.openFlow next .flowSequence, rest)
    | '\x7b' => do some (← scan.openFlow next .flowMapping, rest)
    | ']' => do some (← scan.closeFlow .flowSequenceEnd, rest)
    | '\x7d' => do some (← scan.closeFlow .flowMappingEnd, rest)
    | ',' => do some (← scan.separate, rest)
    | '\'' => do
      let scan ← scan.markKey next
      let (text, rest) ← readSingleQuoted [] [] rest
      some (scan.addScalar (.text text) false, rest)
    | '"' => do
      let scan ← scan.markKey next
      let (text, rest) ← readDoubleQuoted [] [] false rest
      some (scan.addScalar (.text text) false, rest)
    | character =>
      if character == '-' && startsGap rest then do some (← scan.startItem next, rest)
      else if character == '?' && isSeparate then do some (← scan.startMarkedKey next, rest)
      else if character == ':' && isSeparate then do some (← scan.startValue next, rest)
      else if scan.startsPlain character rest then do
        let scan ← scan.markKey next
        let scalar ← readPlain scan.inFlow scan.scalarIndent [] [] (next :: rest)
        some (scan.addScalar (.plain scalar.text) scalar.endsLine, scalar.rest)
      else none

/-- The mark that some editors put at the beginning of a text. -/
def byteOrderMark : Char := '\uFEFF'

/-- Skips blanks, line ends and comments, and a byte order mark at the beginning of a line. A
tab in front of a place where a key may start is not skipped outside brackets. With what
follows comes whether a key may start there. -/
def skip (inFlow allowsKey inComment : Bool) : List Placed → List Placed × Bool
  | [] => ([], allowsKey)
  | next :: rest =>
    if isBreak next.character then skip inFlow (allowsKey || !inFlow) false rest
    else if inComment || next.character == ' ' ||
        (next.character == '\t' && (inFlow || !allowsKey)) ||
        (next.character == byteOrderMark && next.column == 0) then
      skip inFlow allowsKey inComment rest
    else if next.character == '#' then skip inFlow allowsKey true rest
    else (next :: rest, allowsKey)

/-- Reads the tokens of a text; `fuel` bounds their number. -/
def tokens? : (fuel : Nat) → Scan → List Placed → Option (List Token)
  | 0, _, _ => none
  | fuel + 1, scan, text =>
    match skip scan.inFlow scan.allowsKey false text with
    | ([], _) => do
      let scan ← scan.closeAllBlocks.dropKey
      some scan.tokens.reverse
    | (next :: rest, allowsKey) => do
      let (scan, rest) ← ({ scan with allowsKey }.closeBlocks next.column).token next rest
      tokens? fuel scan rest

end Scan

/-- The tokens of a document. Every token takes a character at least. -/
def tokens? (text : String) : Option (List Token) :=
  if text.toList.all isAllowed then
    let characters := unifyBreaks text.toList
    Scan.tokens? (characters.length + 1) {} (place 0 0 0 characters)
  else none

end ForeignBindings.Yaml
