import ForeignBindings.Proofs.Diagnostic.TerminalBlocks

/-!
# Color that can be erased

Terminal output has no control characters but line breaks and those in the texts that are shown
(`TerminalCall.lacks_lines`). So if none of these texts has an escape character, the escape
sequences of the output with color are those of the styles, and what is left without them is the
output without color: `TerminalCall.output_in_blocks_with_erasable_color`.
-/

namespace ForeignBindings

/-! ### Escape sequences -/

namespace Escape

/-- How far an escape sequence has been read. -/
inductive Reading where
  /-- No escape sequence is open. -/
  | outside
  /-- Nothing was read but the escape character. -/
  | opened
  /-- The sequence goes up to a character that is not less than the given one. -/
  | upTo (lowest : Char)

/-- The characters that do not belong to escape sequences. Such a sequence is an escape character
with all that follows up to one of the characters from `0` to `~`; behind `[`, up to one of those
from `@` to `~`. -/
def eraseFrom : Reading → List Char → List Char
  | _, [] => []
  | .outside, character :: rest =>
    if character = '\x1b' then eraseFrom .opened rest else character :: eraseFrom .outside rest
  | .opened, character :: rest =>
    if character = '[' then eraseFrom (.upTo '@') rest
    else if '0' ≤ character && character ≤ '~' then eraseFrom .outside rest
    else eraseFrom (.upTo '0') rest
  | .upTo lowest, character :: rest =>
    if lowest ≤ character && character ≤ '~' then eraseFrom .outside rest
    else eraseFrom (.upTo lowest) rest

/-- The text without its escape sequences. -/
def erase (text : String) : String := String.ofList (eraseFrom .outside text.toList)

/-- What has no escape character is left. -/
theorem eraseFrom_append {front : List Char} (lacks : '\x1b' ∉ front) (behind : List Char) :
    eraseFrom .outside (front ++ behind) = front ++ eraseFrom .outside behind := by
  induction front with
  | nil => rfl
  | cons character rest inductionHypothesis =>
    have isOther : character ≠ '\x1b' := fun same => lacks (same ▸ List.mem_cons_self)
    have restLacks : '\x1b' ∉ rest := fun member => lacks (List.mem_cons_of_mem character member)
    rw [List.cons_append, eraseFrom, if_neg isOther, inductionHypothesis restLacks,
      List.cons_append]

/-- The escape sequence of a style is erased. -/
theorem eraseFrom_style (style : Style) (behind : List Char) :
    eraseFrom .outside (style.escape.toList ++ behind) = eraseFrom .outside behind := by
  cases style with
  | severity severity => cases severity <;> rfl
  | location => rfl
  | help => rfl
  | strong => rfl

theorem eraseFrom_reset (behind : List Char) :
    eraseFrom .outside (Span.reset.toList ++ behind) = eraseFrom .outside behind := rfl

/-- Without escape sequences, spans with color are those without. -/
theorem erase_writeAll {spans : List Span}
    (lacks : ∀ span ∈ spans, '\x1b' ∉ (span.write false).toList) :
    erase (Span.writeAll true spans) = Span.writeAll false spans := by
  have erased : eraseFrom .outside (Span.writeAll true spans).toList =
      (Span.writeAll false spans).toList := by
    induction spans with
    | nil => rfl
    | cons span rest inductionHypothesis =>
      obtain ⟨first, others⟩ := List.forall_mem_cons.mp lacks
      have split (colored : Bool) : (Span.writeAll colored (span :: rest)).toList =
          (span.write colored).toList ++ (Span.writeAll colored rest).toList := by
        simp [Span.writeAll, String.join_cons, String.toList_append]
      rw [split, split, ← inductionHypothesis others]
      cases span with
      | plain text => exact eraseFrom_append first _
      | styled style text =>
        have colored : (Span.write true (.styled style text)).toList =
            style.escape.toList ++ (text.toList ++ Span.reset.toList) := by
          simp [Span.write, String.toList_append]
        have textLacks : '\x1b' ∉ text.toList := first
        rw [colored, List.append_assoc, eraseFrom_style, List.append_assoc,
          eraseFrom_append textLacks, eraseFrom_reset]
        rfl
  rw [erase, erased, String.ofList_toList]

end Escape

/-! ### Characters that are not shown -/

namespace Text

/-- A text does not have a certain character. -/
def Lacks (character : Char) (text : String) : Prop := character ∉ text.toList

/-- Whether a text has no ASCII control characters. -/
def isPrintable (text : String) : Bool := text.toList.all (' ' ≤ ·)

theorem lacks_append_iff {character : Char} {first second : String} :
    Lacks character (first ++ second) ↔ Lacks character first ∧ Lacks character second := by
  simp [Lacks, String.toList_append, not_or]

/-- A printable text has no control character. -/
theorem lacks_of_isPrintable {character : Char} (control : character < ' ') {text : String}
    (printable : isPrintable text = true) : Lacks character text := by
  intro member
  have shown : ' ' ≤ character := by simpa using List.all_eq_true.mp printable character member
  exact Char.not_lt.mpr shown control

theorem isPrintable_append (first second : String) :
    isPrintable (first ++ second) = (isPrintable first && isPrintable second) := by
  simp [isPrintable, String.toList_append]

theorem isPrintable_toString (number : Nat) : isPrintable (toString number) = true := by
  refine List.all_eq_true.mpr fun character member => decide_eq_true ?_
  rw [Nat.toString_eq_repr, Nat.toList_repr] at member
  have isDigit := Nat.isDigit_of_mem_toDigits (by decide) (by decide) member
  have fromZero : '0' ≤ character := (Bool.and_eq_true_iff.mp isDigit).1 |> of_decide_eq_true
  exact Char.le_trans (by decide) fromZero

theorem isPrintable_counted (count : Nat) {noun : String} (printable : isPrintable noun = true) :
    isPrintable (Terminal.counted count noun) = true := by
  have plural : isPrintable (if count = 1 then "" else "s") = true := by split <;> rfl
  rw [Terminal.counted, isPrintable_append, isPrintable_append, isPrintable_append,
    isPrintable_toString, printable, plural]
  rfl

/-- A character that is in no text and not in the separator is not between texts. -/
theorem lacks_intercalate {character : Char} {separator : String} {texts : List String}
    (separatorLacks : Lacks character separator)
    (textsLack : ∀ text ∈ texts, Lacks character text) :
    Lacks character (separator.intercalate texts) := by
  have isOther : ∀ other ∈ (separator.intercalate texts).toList, other ≠ character := by
    rw [String.toList_intercalate]
    refine forall_mem_intercalate ?_ (List.forall_mem_map.mpr fun text member => ?_)
    · rintro other isThere rfl
      exact separatorLacks isThere
    · rintro other isThere rfl
      exact textsLack text member isThere
  exact fun member => isOther character member rfl

/-- A character that is in no line and does not end lines is not in the text of lines. -/
theorem lacks_unlines {character : Char} {lines : List String} (noBreak : character ≠ '\n')
    (linesLack : ∀ line ∈ lines, Lacks character line) : Lacks character (unlines lines) := by
  have ended : ∀ line ∈ lines, Lacks character (line ++ "\n") := fun line member =>
    lacks_append_iff.mpr ⟨linesLack line member, by simpa [Lacks] using noBreak⟩
  simpa [Lacks, unlines, String.toList_join, List.mem_flatMap] using ended

end Text

open Text (Lacks)

/-- The texts of a diagnostic that come from elsewhere. -/
def Diagnostic.texts (diagnostic : Diagnostic) : List String :=
  diagnostic.message ::
    ((diagnostic.labels.flatMap fun label => [label.location.file, label.message]) ++
      diagnostic.notes ++ diagnostic.suggestions)

/-- The texts of an entry that come from elsewhere. -/
def OutputEntry.texts : OutputEntry → List String
  | .diagnostic shown => shown.texts
  | .summary _ _ _ => []

/-- The texts that a call is given. -/
def TerminalCall.texts : TerminalCall → List String
  | emit diagnostic => diagnostic.texts
  | emitAll diagnostics => diagnostics.flatMap Diagnostic.texts
  | summarize _ _ => []

section Control

variable {character : Char} (control : character < ' ')

include control

/-- A control character in the text of a location is one in the name of its file. -/
theorem Location.lacks_display {location : Location} (fileLacks : Lacks character location.file) :
    Lacks character location.display := by
  have colon : Lacks character ":" := Text.lacks_of_isPrintable control rfl
  have number (number : UInt32) : Lacks character (toString number.toNat) :=
    Text.lacks_of_isPrintable control (Text.isPrintable_toString number.toNat)
  unfold Location.display
  split
  · simp only [Text.lacks_append_iff]
    exact ⟨⟨⟨⟨fileLacks, colon⟩, number location.line⟩, colon⟩, number location.column⟩
  · exact Text.lacks_of_isPrintable control rfl

/-- A control character in the line of a label is one in a text of the label. -/
theorem Label.lacks_line {label : Label} {arrow : String}
    (arrowPrintable : Text.isPrintable arrow = true)
    (textsLack : ∀ text ∈ [label.location.file, label.message], Lacks character text) :
    Lacks character (label.line arrow) := by
  have printable {text : String} (isPrintable : Text.isPrintable text = true) :=
    Text.lacks_of_isPrintable control isPrintable
  have location := Location.lacks_display control (textsLack label.location.file (by simp))
  have message := textsLack label.message (by simp)
  unfold Label.line
  simp only [Text.lacks_append_iff]
  exact ⟨⟨⟨⟨⟨printable rfl, printable arrowPrintable⟩, printable rfl⟩, location⟩, printable rfl⟩,
    message⟩

/-- A control character in a line of a diagnostic is one in a text of the diagnostic. -/
theorem Diagnostic.lacks_lines {diagnostic : Diagnostic}
    (textsLack : ∀ text ∈ diagnostic.texts, Lacks character text) :
    ∀ line ∈ diagnostic.lines, Lacks character line := by
  have printable {text : String} (isPrintable : Text.isPrintable text = true) :=
    Text.lacks_of_isPrintable control isPrintable
  obtain ⟨message, details⟩ := List.forall_mem_cons.mp textsLack
  rw [List.forall_mem_append, List.forall_mem_append] at details
  obtain ⟨⟨labels, notes⟩, suggestions⟩ := details
  have headline : Lacks character (diagnostic.severity.word ++ "[" ++ diagnostic.code.text ++
      "]: " ++ diagnostic.message) := by
    have word : Text.isPrintable diagnostic.severity.word = true := by
      cases diagnostic.severity <;> rfl
    have code : Text.isPrintable diagnostic.code.text = true := by
      cases diagnostic.code <;> rfl
    simp only [Text.lacks_append_iff]
    exact ⟨⟨⟨⟨printable word, printable rfl⟩, printable code⟩, printable rfl⟩, message⟩
  have labelLines : ∀ line ∈ Label.lines diagnostic.labels, Lacks character line := by
    intro line member
    obtain ⟨label, isLabel, arrow, isArrow, rfl⟩ := Label.exists_line_of_mem_lines member
    have arrows : ∀ arrow ∈ ["-->", ":::"], Text.isPrintable arrow = true := by decide
    exact Label.lacks_line control (arrows arrow isArrow) fun text isText =>
      labels text (List.mem_flatMap.mpr ⟨label, isLabel, isText⟩)
  have remarks {start : String} (isPrintable : Text.isPrintable start = true) {texts : List String}
      (lack : ∀ text ∈ texts, Lacks character text) :
      ∀ line ∈ texts.map (start ++ ·), Lacks character line :=
    List.forall_mem_map.mpr fun text member =>
      Text.lacks_append_iff.mpr ⟨printable isPrintable, lack text member⟩
  refine List.forall_mem_cons.mpr ⟨headline, ?_⟩
  rw [List.forall_mem_append, List.forall_mem_append]
  exact ⟨⟨labelLines, remarks rfl notes⟩, remarks rfl suggestions⟩

/-- A control character in a line of an entry is one in a text of the entry. -/
theorem OutputEntry.lacks_lines {entry : OutputEntry}
    (textsLack : ∀ text ∈ entry.texts, Lacks character text) :
    ∀ line ∈ entry.lines, Lacks character line := by
  cases entry with
  | diagnostic shown => exact Diagnostic.lacks_lines control textsLack
  | summary errors warnings counts =>
    have error : Text.isPrintable "error" = true := rfl
    have warning : Text.isPrintable "warning" = true := rfl
    have parts : ∀ part ∈ Terminal.summaryParts errors warnings, Lacks character part := by
      refine List.forall_mem_map.mpr fun part member => ?_
      refine Text.lacks_of_isPrintable control (Text.isPrintable_counted part.1 ?_)
      have among : part = (errors, "error") ∨ part = (warnings, "warning") := by
        simpa using List.mem_of_mem_filter member
      rcases among with rfl | rfl
      · exact error
      · exact warning
    have start : Lacks character "summary: " := Text.lacks_of_isPrintable control rfl
    have separator : Lacks character ", " := Text.lacks_of_isPrintable control rfl
    refine List.forall_mem_singleton.mpr ?_
    exact Text.lacks_append_iff.mpr ⟨start, Text.lacks_intercalate separator parts⟩

/-- A control character in a line of blocks is one in a text of what they show. -/
theorem OutputBlock.lacks_lines {blocks : List OutputBlock} {entries : List OutputEntry}
    (reads : Reads blocks entries)
    (textsLack : ∀ entry ∈ entries, ∀ text ∈ entry.texts, Lacks character text) :
    ∀ line ∈ [""].intercalate (blocks.map OutputBlock.lines), Lacks character line := by
  obtain ⟨rfl, -⟩ := reads
  have ofEntry : ∀ block ∈ blocks, ∀ entry ∈ block.entries, ∀ line ∈ entry.lines,
      Lacks character line := by
    intro block isBlock entry isEntry
    exact OutputEntry.lacks_lines control
      (textsLack entry (List.mem_flatMap.mpr ⟨block, isBlock, isEntry⟩))
  have empty : ∀ line ∈ [""], Lacks character line :=
    List.forall_mem_singleton.mpr List.not_mem_nil
  refine forall_mem_intercalate empty (List.forall_mem_map.mpr fun block isBlock line member => ?_)
  rcases List.mem_append.mp member with inOpener | inNotes
  · exact ofEntry block isBlock block.opener List.mem_cons_self line inOpener
  · obtain ⟨note, isNote, inNote⟩ := List.mem_flatMap.mp inNotes
    obtain ⟨unindented, isLine, rfl⟩ := List.mem_map.mp inNote
    exact Text.lacks_append_iff.mpr ⟨Text.lacks_of_isPrintable control rfl,
      ofEntry block isBlock note (List.mem_cons_of_mem _ isNote) unindented isLine⟩

end Control

namespace TerminalCall

/-- The texts of what a call shows are those that it is given. -/
theorem mem_texts_of_mem_entries {call : TerminalCall} {entry : OutputEntry}
    (member : entry ∈ call.entries) {text : String} (isText : text ∈ entry.texts) :
    text ∈ call.texts := by
  cases call with
  | emit diagnostic =>
    obtain rfl := List.mem_singleton.mp member
    exact isText
  | emitAll diagnostics =>
    obtain ⟨diagnostic, isShown, rfl⟩ := List.mem_map.mp member
    exact List.mem_flatMap.mpr ⟨diagnostic, isShown, isText⟩
  | summarize errors warnings =>
    rw [entries] at member
    split at member
    case isTrue =>
      obtain rfl := List.mem_singleton.mp member
      exact isText
    case isFalse => exact absurd member List.not_mem_nil

/-- A control character in a line of what calls show is one in a text that they are given. -/
theorem lacks_lines {calls : List TerminalCall} {character : Char} (control : character < ' ')
    (textsLack : ∀ text ∈ calls.flatMap texts, Lacks character text) :
    ∀ line ∈ [""].intercalate
      ((OutputBlock.ofEntries (calls.flatMap entries)).map OutputBlock.lines),
      Lacks character line := by
  refine OutputBlock.lacks_lines control (OutputBlock.reads_ofEntries _) ?_
  intro entry member text isText
  obtain ⟨call, isCall, isEntry⟩ := List.mem_flatMap.mp member
  have isGiven := mem_texts_of_mem_entries isEntry isText
  exact textsLack text (List.mem_flatMap.mpr ⟨call, isCall, isGiven⟩)

/-- Terminal output consists of blocks, and color can be erased from it. There is one reading of
what calls show as blocks: a block begins with anything but a note, or with a note that nothing
stands before, and has the notes up to the next one. The lines of the blocks are written with one
empty line between two blocks and none elsewhere; no line of a block is empty, and those of the
notes that belong to it are indented by two columns more. If the texts that are given have no line
breaks, then these are the lines of the output. Totals that are both zero change nothing. If the
texts that are given have no escape characters, the output without color has none, and it is what
is left of the output with color without the escape sequences. -/
theorem output_in_blocks_with_erasable_color (calls : List TerminalCall) :
    let terminal := performAll {} calls
    let shown := calls.flatMap entries
    let blocks := OutputBlock.ofEntries shown
    let lines := [""].intercalate (blocks.map OutputBlock.lines)
    (∀ reading, OutputBlock.Reads reading shown ↔ reading = blocks) ∧
    terminal.text false = unlines lines ∧
    (∀ block ∈ blocks, block.lines ≠ [] ∧ ∀ line ∈ block.lines, line ≠ "") ∧
    ((∀ text ∈ calls.flatMap texts, '\n' ∉ text.toList) →
      (terminal.text false).toList.splitOn '\n' = lines.map String.toList ++ [[]]) ∧
    (∀ terminal, perform terminal (.summarize 0 0) = terminal) ∧
    ((∀ text ∈ calls.flatMap texts, '\x1b' ∉ text.toList) →
      '\x1b' ∉ (terminal.text false).toList ∧
        Escape.erase (terminal.text true) = terminal.text false) := by
  intro terminal shown blocks lines
  have written : terminal.text false = unlines lines := by
    have state : terminal = Terminal.putAll {} shown := performAll_eq_putAll {} calls
    rw [state]
    exact Terminal.text_putAll (OutputBlock.reads_ofEntries shown)
  refine ⟨fun reading => OutputBlock.reads_iff, written, fun block _ => block.lines_nonempty,
    ?lines, Terminal.summarize_zero, ?color⟩
  case lines =>
    intro unbroken
    rw [written]
    exact splitOn_unlines (lacks_lines (by decide) unbroken)
  case color =>
    intro noEscapes
    have lacks : Lacks '\x1b' (terminal.text false) := by
      rw [written]
      exact Text.lacks_unlines (by decide) (lacks_lines (by decide) noEscapes)
    refine ⟨lacks, ?_⟩
    rw [terminal.text_eq_writeAll, terminal.text_eq_writeAll]
    refine Escape.erase_writeAll fun span isSpan inSpan => lacks ?_
    rw [terminal.text_eq_writeAll, Span.writeAll, String.toList_join]
    exact List.mem_flatMap.mpr ⟨_, List.mem_map.mpr ⟨span, isSpan, rfl⟩, inSpan⟩

/-- A warning with a note on its context, totals of nothing, an error, and the totals. -/
def contextCalls : List TerminalCall :=
  [.emitAll
      [(Diagnostic.warning .referenceUnsupported "declaration is ignored").withLabel
        ⟨"api.h", 12, 5⟩ "declared here",
      Diagnostic.note .enclosingDeclaration "in declaration for parameter"],
    .summarize 0 0, .emit (.error .unitUnavailable "file is missing"), .summarize 1 1]

/-- Three blocks: the note belongs to the warning, and the totals of nothing leave no trace. -/
theorem context_calls_in_blocks :
    let terminal := performAll {} contextCalls
    ((∀ text ∈ contextCalls.flatMap texts, '\n' ∉ text.toList) ∧
      (terminal.text false).toList.splitOn '\n' =
        ["warning[E2002]: declaration is ignored", "  --> api.h:12:5: declared here",
          "  note[E2008]: in declaration for parameter", "", "error[E1001]: file is missing", "",
          "summary: 1 error, 1 warning"].map String.toList ++ [[]]) ∧
    ((∀ text ∈ contextCalls.flatMap texts, '\x1b' ∉ text.toList) ∧
      Escape.erase (terminal.text true) = terminal.text false) := by
  intro terminal
  have unbroken : ∀ text ∈ contextCalls.flatMap texts, '\n' ∉ text.toList := by decide +kernel
  have noEscapes : ∀ text ∈ contextCalls.flatMap texts, '\x1b' ∉ text.toList := by decide +kernel
  obtain ⟨-, -, -, lines, -, color⟩ := output_in_blocks_with_erasable_color contextCalls
  refine ⟨⟨unbroken, (lines unbroken).trans ?_⟩, noEscapes, (color noEscapes).2⟩
  decide +kernel

end TerminalCall

end ForeignBindings
