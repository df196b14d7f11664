import ForeignBindings.Value.Yaml.Token

/-!
# Reading YAML

The value of a document, from its tokens. A scalar without quotes stays plain, a
collection entry without a text is a plain scalar without a text, and a text with
more than one document has no value.
-/

namespace ForeignBindings.Yaml

/-- What stands where nothing is written. -/
def nothing : Value := .plain ""

/-- Whether no node comes next in a block collection: its items or entries go on, or it
ends. -/
def endsBlockNode : List Token → Bool
  | .key :: _ | .value :: _ | .blockEnd :: _ => true
  | _ => false

/-- Whether no node comes next between brackets. -/
def endsFlowNode : List Token → Bool
  | .value :: _ | .separator :: _ | .flowSequenceEnd :: _ | .flowMappingEnd :: _ => true
  | _ => false

/-- Whether an entry between square brackets has a key without a node. -/
def lacksKey : List Token → Bool
  | .value :: _ | .separator :: _ | .flowSequenceEnd :: _ => true
  | _ => false

/-- Whether an item comes next. -/
def startsItem : List Token → Bool
  | .item :: _ => true
  | _ => false

mutual

/-- Reads a node. A block collection may start where `inBlock` holds, and a sequence that is
indented like the key in front of it where `behindKey` holds. The `fuel` bounds the steps. -/
def node : (fuel : Nat) → (inBlock behindKey : Bool) → List Token → Option (Value × List Token)
  | 0, _, _, _ => none
  | fuel + 1, inBlock, behindKey, tokens =>
    match tokens with
    | .scalar value :: rest => some (value, rest)
    | .flowSequence :: rest => do
      let (items, rest) ← flowItems fuel true rest
      some (.sequence items, rest)
    | .flowMapping :: rest => do
      let (entries, rest) ← flowEntries fuel true rest
      some (.mapping entries, rest)
    | .blockSequence :: rest =>
      if inBlock then do
        let (items, rest) ← blockItems fuel rest
        some (.sequence items, rest)
      else none
    | .blockMapping :: rest =>
      if inBlock then do
        let (entries, rest) ← blockEntries fuel rest
        some (.mapping entries, rest)
      else none
    | .item :: rest =>
      if behindKey then do
        let (items, rest) ← alignedItems fuel (.item :: rest)
        some (.sequence items, rest)
      else none
    | _ => none

/-- Reads a node in a block collection, unless there is none. -/
def blockNode : (fuel : Nat) → (behindKey : Bool) → List Token → Option (Value × List Token)
  | 0, _, _ => none
  | fuel + 1, behindKey, tokens =>
    if endsBlockNode tokens || (!behindKey && startsItem tokens) then some (nothing, tokens)
    else node fuel true behindKey tokens

/-- Reads a node between brackets, unless there is none. -/
def flowNode : (fuel : Nat) → List Token → Option (Value × List Token)
  | 0, _ => none
  | fuel + 1, tokens =>
    if endsFlowNode tokens then some (nothing, tokens) else node fuel false false tokens

/-- Reads the items of a block sequence up to its end. -/
def blockItems : (fuel : Nat) → List Token → Option (List Value × List Token)
  | 0, _ => none
  | fuel + 1, tokens =>
    match tokens with
    | .blockEnd :: rest => some ([], rest)
    | .item :: rest => do
      let (item, rest) ← blockNode fuel false rest
      let (items, rest) ← blockItems fuel rest
      some (item :: items, rest)
    | _ => none

/-- Reads the items of a sequence that is indented like its key. It ends where its items
do. -/
def alignedItems : (fuel : Nat) → List Token → Option (List Value × List Token)
  | 0, _ => none
  | fuel + 1, tokens =>
    match tokens with
    | .item :: rest => do
      let (item, rest) ← blockNode fuel false rest
      let (items, rest) ← alignedItems fuel rest
      some (item :: items, rest)
    | tokens => some ([], tokens)

/-- Reads the value of an entry of a block mapping; there may be none. -/
def blockValue : (fuel : Nat) → List Token → Option (Value × List Token)
  | 0, _ => none
  | fuel + 1, tokens =>
    match tokens with
    | .value :: rest => blockNode fuel true rest
    | tokens => some (nothing, tokens)

/-- Reads the entries of a block mapping up to its end. -/
def blockEntries : (fuel : Nat) → List Token → Option (Value.Entries × List Token)
  | 0, _ => none
  | fuel + 1, tokens =>
    match tokens with
    | .blockEnd :: rest => some ([], rest)
    | .key :: rest => do
      let (key, rest) ← blockNode fuel true rest
      let (value, rest) ← blockValue fuel rest
      let (entries, rest) ← blockEntries fuel rest
      some ((key, value) :: entries, rest)
    | _ => none

/-- Reads the value of an entry between brackets; there may be none. -/
def flowValue : (fuel : Nat) → List Token → Option (Value × List Token)
  | 0, _ => none
  | fuel + 1, tokens =>
    match tokens with
    | .value :: rest => flowNode fuel rest
    | tokens => some (nothing, tokens)

/-- Reads an entry between square brackets. A key without a node stands for the token behind
it. -/
def flowItemEntry : (fuel : Nat) → List Token → Option ((Value × Value) × List Token)
  | 0, _ => none
  | fuel + 1, tokens => do
    let (key, rest) ←
      if lacksKey tokens then some (nothing, tokens.drop 1) else node fuel false false tokens
    let (value, rest) ← flowValue fuel rest
    some ((key, value), rest)

/-- Reads an entry between braces whose key has a token of its own. -/
def keyedEntry : (fuel : Nat) → List Token → Option ((Value × Value) × List Token)
  | 0, _ => none
  | fuel + 1, tokens => do
    let (key, rest) ← flowNode fuel tokens
    let (value, rest) ← flowValue fuel rest
    some ((key, value), rest)

/-- Reads the items between square brackets up to the closing one. An entry among them is a
mapping of its own. All but the first item stand behind a separator. -/
def flowItems : (fuel : Nat) → (isFirst : Bool) → List Token → Option (List Value × List Token)
  | 0, _, _ => none
  | fuel + 1, isFirst, tokens =>
    match isFirst, tokens with
    | _, .flowSequenceEnd :: rest => some ([], rest)
    | false, .separator :: .flowSequenceEnd :: rest => some ([], rest)
    | false, .separator :: rest => flowItem fuel rest
    | false, _ => none
    | true, tokens => flowItem fuel tokens

/-- Reads an item between square brackets, and all that follow. -/
def flowItem : (fuel : Nat) → List Token → Option (List Value × List Token)
  | 0, _ => none
  | fuel + 1, tokens =>
    match tokens with
    | .key :: rest => do
      let (entry, rest) ← flowItemEntry fuel rest
      let (items, rest) ← flowItems fuel false rest
      some (.mapping [entry] :: items, rest)
    | tokens => do
      let (item, rest) ← node fuel false false tokens
      let (items, rest) ← flowItems fuel false rest
      some (item :: items, rest)

/-- Reads the entries between braces up to the closing one. All but the first entry stand
behind a separator. -/
def flowEntries : (fuel : Nat) → (isFirst : Bool) → List Token → Option (Value.Entries × List Token)
  | 0, _, _ => none
  | fuel + 1, isFirst, tokens =>
    match isFirst, tokens with
    | _, .flowMappingEnd :: rest => some ([], rest)
    | false, .separator :: .flowMappingEnd :: rest => some ([], rest)
    | false, .separator :: rest => flowEntry fuel rest
    | false, _ => none
    | true, tokens => flowEntry fuel tokens

/-- Reads an entry between braces, and all that follow. A node without a `:` is a key without
a value. -/
def flowEntry : (fuel : Nat) → List Token → Option (Value.Entries × List Token)
  | 0, _ => none
  | fuel + 1, tokens =>
    match tokens with
    | .key :: rest => do
      let (entry, rest) ← keyedEntry fuel rest
      let (entries, rest) ← flowEntries fuel false rest
      some (entry :: entries, rest)
    | tokens => do
      let (key, rest) ← node fuel false false tokens
      let (entries, rest) ← flowEntries fuel false rest
      some ((key, nothing) :: entries, rest)

end

/-- Whether nothing but ends of the document is left. -/
def endsDocuments : List Token → Bool
  | [] => true
  | .documentEnd :: rest => endsDocuments rest
  | _ :: _ => false

/-- The value of a document without its start. -/
def content? (tokens : List Token) : Option Value := do
  let (value, rest) ← node (4 * tokens.length + 4) true false tokens
  if endsDocuments rest then some value else none

/-- The value of a document of the given tokens. -/
def ofTokens? : List Token → Option Value
  | [] => some nothing
  | .documentStart :: rest => if endsDocuments rest then some nothing else content? rest
  | tokens => content? tokens

/-- Reads a YAML text. A text without a document is a plain scalar without a text. -/
def read? (text : String) : Option Value := do ofTokens? (← tokens? text)

end ForeignBindings.Yaml
