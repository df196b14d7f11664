import ForeignBindings.Diagnostic.Terminal
import ForeignBindings.Proofs.Text.Lines

/-!
# Terminal output in blocks

What a terminal is asked to show is read as blocks, where a note belongs to the block before it
and anything else opens a block; only a note that nothing stands before opens one as well. There
is one such reading (`OutputBlock.reads_iff`). The lines of the blocks, with one empty line between
two blocks, are what is written without color: `Terminal.text_putAll`.
-/

namespace ForeignBindings

/-- What a terminal shows. -/
inductive OutputEntry where
  | diagnostic (diagnostic : Diagnostic)
  /-- The totals of a run that are not both zero. -/
  | summary (errors warnings : Nat) (counts : errors ≠ 0 ∨ warnings ≠ 0)

/-- What is asked of a terminal. -/
inductive TerminalCall where
  | emit (diagnostic : Diagnostic)
  | emitAll (diagnostics : List Diagnostic)
  | summarize (errors warnings : Nat)

namespace TerminalCall

/-- What a call has a terminal show. Totals that are both zero are not shown. -/
def entries : TerminalCall → List OutputEntry
  | emit diagnostic => [.diagnostic diagnostic]
  | emitAll diagnostics => diagnostics.map .diagnostic
  | summarize errors warnings =>
    if counts : errors ≠ 0 ∨ warnings ≠ 0 then [.summary errors warnings counts] else []

/-- What a call makes of a terminal. -/
def perform (terminal : Terminal) : TerminalCall → Terminal
  | emit diagnostic => terminal.emit diagnostic
  | emitAll diagnostics => terminal.emitAll diagnostics
  | summarize errors warnings => terminal.summarize errors warnings

/-- What calls make of a terminal. -/
def performAll (terminal : Terminal) (calls : List TerminalCall) : Terminal :=
  calls.foldl perform terminal

end TerminalCall

/-! ### Lines -/

/-- The line that a label starts, with the arrow that leads to its location. -/
def Label.line (arrow : String) (label : Label) : String :=
  "  " ++ arrow ++ " " ++ label.location.display ++ ": " ++ label.message

/-- The lines that labels start; the first one has an arrow of its own. -/
def Label.lines : List Label → List String
  | [] => []
  | first :: others => first.line "-->" :: others.map (Label.line ":::")

/-- The lines that a diagnostic starts where it opens a block. -/
def Diagnostic.lines (diagnostic : Diagnostic) : List String :=
  (diagnostic.severity.word ++ "[" ++ diagnostic.code.text ++ "]: " ++ diagnostic.message) ::
    (Label.lines diagnostic.labels ++ diagnostic.notes.map ("  = note: " ++ ·) ++
      diagnostic.suggestions.map ("  = help: " ++ ·))

namespace OutputEntry

/-- Whether a note is shown. -/
def isNote : OutputEntry → Bool
  | .diagnostic shown => shown.isNote
  | .summary _ _ _ => false

/-- The lines that are started where something opens a block. -/
def lines : OutputEntry → List String
  | .diagnostic shown => shown.lines
  | .summary errors warnings _ =>
    ["summary: " ++ ", ".intercalate (Terminal.summaryParts errors warnings)]

end OutputEntry

/-- The lines of labels are lines of single ones. -/
theorem Label.exists_line_of_mem_lines {labels : List Label} {line : String}
    (member : line ∈ Label.lines labels) :
    ∃ label ∈ labels, ∃ arrow ∈ ["-->", ":::"], line = label.line arrow := by
  cases labels with
  | nil => exact absurd member List.not_mem_nil
  | cons first others =>
    rcases List.mem_cons.mp member with rfl | isLater
    · exact ⟨first, List.mem_cons_self, "-->", by simp, rfl⟩
    · obtain ⟨label, isOther, rfl⟩ := List.mem_map.mp isLater
      exact ⟨label, List.mem_cons_of_mem first isOther, ":::", by simp, rfl⟩

/-- No line of an entry is empty. -/
theorem OutputEntry.ne_empty_of_mem_lines {entry : OutputEntry} {line : String}
    (member : line ∈ entry.lines) : line ≠ "" := by
  cases entry with
  | diagnostic shown =>
    rcases List.mem_cons.mp member with rfl | isDetail
    · simp
    · rcases List.mem_append.mp isDetail with isEarlier | isHelp
      · rcases List.mem_append.mp isEarlier with isLabel | isRemark
        · obtain ⟨label, -, arrow, -, rfl⟩ := Label.exists_line_of_mem_lines isLabel
          simp [Label.line]
        · obtain ⟨text, -, rfl⟩ := List.mem_map.mp isRemark
          simp
      · obtain ⟨text, -, rfl⟩ := List.mem_map.mp isHelp
        simp
  | summary errors warnings counts =>
    rw [List.mem_singleton.mp member]
    simp

theorem OutputEntry.lines_ne_nil (entry : OutputEntry) : entry.lines ≠ [] := by
  cases entry <;> exact List.cons_ne_nil _ _

/-! ### Blocks -/

/-- Something that a terminal shows with the notes that belong to it. -/
@[ext] structure OutputBlock where
  opener : OutputEntry
  notes : List OutputEntry
  isNote_notes : ∀ note ∈ notes, note.isNote = true

namespace OutputBlock

/-- What a block shows, in order. -/
def entries (block : OutputBlock) : List OutputEntry := block.opener :: block.notes

/-- The lines of a block. Those of the notes are indented by two columns more. -/
def lines (block : OutputBlock) : List String :=
  block.opener.lines ++ block.notes.flatMap fun note => note.lines.map ("  " ++ ·)

/-- A block has lines, and none of them is empty. -/
theorem lines_nonempty (block : OutputBlock) :
    block.lines ≠ [] ∧ ∀ line ∈ block.lines, line ≠ "" := by
  refine ⟨fun nothing => ?_, fun line member => ?_⟩
  · exact block.opener.lines_ne_nil (List.append_eq_nil_iff.mp nothing).1
  · rcases List.mem_append.mp member with inOpener | inNotes
    · exact OutputEntry.ne_empty_of_mem_lines inOpener
    · obtain ⟨note, -, inNote⟩ := List.mem_flatMap.mp inNotes
      obtain ⟨unindented, -, rfl⟩ := List.mem_map.mp inNote
      simp

/-- Blocks show certain entries in order, and none but the first is opened by a note. What is not a
note opens a block, for the notes of a block are notes. -/
structure Reads (blocks : List OutputBlock) (entries : List OutputEntry) : Prop where
  entries : blocks.flatMap OutputBlock.entries = entries
  opened : ∀ block ∈ blocks.tail, block.opener.isNote = false

/-- Blocks with one more entry in front, which opens the first one. -/
def cons (entry : OutputEntry) : List OutputBlock → List OutputBlock
  | [] => [⟨entry, [], nofun⟩]
  | block :: blocks =>
    if isNote : block.opener.isNote = true then
      ⟨entry, block.entries, List.forall_mem_cons.mpr ⟨isNote, block.isNote_notes⟩⟩ :: blocks
    else ⟨entry, [], nofun⟩ :: block :: blocks

/-- The reading of entries as blocks. -/
def ofEntries (entries : List OutputEntry) : List OutputBlock := entries.foldr cons []

theorem cons_of_isNote (entry : OutputEntry) {block : OutputBlock} (blocks : List OutputBlock)
    (isNote : block.opener.isNote = true) :
    cons entry (block :: blocks) =
      ⟨entry, block.entries, List.forall_mem_cons.mpr ⟨isNote, block.isNote_notes⟩⟩ :: blocks :=
  dif_pos isNote

theorem cons_of_not_isNote (entry : OutputEntry) {block : OutputBlock} (blocks : List OutputBlock)
    (isNote : block.opener.isNote = false) :
    cons entry (block :: blocks) = ⟨entry, [], nofun⟩ :: block :: blocks :=
  dif_neg (Bool.eq_false_iff.mp isNote)

/-- An entry in front of blocks is shown before them. -/
theorem Reads.cons {blocks : List OutputBlock} {entries : List OutputEntry}
    (reads : Reads blocks entries) (entry : OutputEntry) :
    Reads (OutputBlock.cons entry blocks) (entry :: entries) := by
  obtain ⟨rfl, opened⟩ := reads
  cases blocks with
  | nil => exact ⟨rfl, nofun⟩
  | cons block others =>
    cases isNote : block.opener.isNote with
    | true =>
      rw [cons_of_isNote entry others isNote]
      exact ⟨rfl, opened⟩
    | false =>
      rw [cons_of_not_isNote entry others isNote]
      exact ⟨rfl, List.forall_mem_cons.mpr ⟨isNote, opened⟩⟩

theorem reads_ofEntries (entries : List OutputEntry) : Reads (ofEntries entries) entries := by
  induction entries with
  | nil => exact ⟨rfl, nofun⟩
  | cons entry rest inductionHypothesis => exact inductionHypothesis.cons entry

/-- The entries of a block in front of blocks that no note opens are read as that block. -/
theorem foldr_cons_entries {blocks : List OutputBlock}
    (opened : ∀ block ∈ blocks.head?, block.opener.isNote = false) (block : OutputBlock) :
    block.entries.foldr cons blocks = block :: blocks := by
  obtain ⟨opener, notes, areNotes⟩ := block
  change cons opener (notes.foldr cons blocks) = _
  induction notes generalizing opener with
  | nil =>
    cases blocks with
    | nil => rfl
    | cons next others => exact cons_of_not_isNote opener others (opened next rfl)
  | cons note rest inductionHypothesis =>
    obtain ⟨isNote, areOthers⟩ := List.forall_mem_cons.mp areNotes
    rw [List.foldr_cons, inductionHypothesis note areOthers]
    exact cons_of_isNote opener blocks isNote

/-- There is one reading of entries as blocks. -/
theorem reads_iff {blocks : List OutputBlock} {entries : List OutputEntry} :
    Reads blocks entries ↔ blocks = ofEntries entries := by
  constructor
  · rintro ⟨rfl, opened⟩
    induction blocks with
    | nil => rfl
    | cons block rest inductionHypothesis =>
      have restOpened : ∀ block ∈ rest.tail, block.opener.isNote = false :=
        fun block member => opened block (List.mem_of_mem_tail member)
      have nextOpened : ∀ block ∈ rest.head?, block.opener.isNote = false :=
        fun block member => opened block (List.mem_of_mem_head? member)
      rw [List.flatMap_cons, ofEntries, List.foldr_append]
      change _ = block.entries.foldr cons (ofEntries (rest.flatMap OutputBlock.entries))
      rw [← inductionHypothesis restOpened, foldr_cons_entries nextOpened]
  · rintro rfl
    exact reads_ofEntries entries

end OutputBlock

/-! ### What is written -/

namespace Span

variable (colored : Bool)

/-- Spans as written with or without color. -/
def writeAll (spans : List Span) : String := String.join (spans.map (write colored))

theorem writeAll_append (first second : List Span) :
    writeAll colored (first ++ second) = writeAll colored first ++ writeAll colored second := by
  simp [writeAll, String.join_append]

/-- Spans that write a line for each part write all lines. -/
theorem writeAll_flatMap {α : Type} {spansOf : α → List Span} {lineOf : α → String}
    (writesLine : ∀ part, writeAll colored (spansOf part) = unlines [lineOf part])
    (parts : List α) :
    writeAll colored (parts.flatMap spansOf) = unlines (parts.map lineOf) := by
  induction parts with
  | nil => rfl
  | cons part rest inductionHypothesis =>
    rw [List.flatMap_cons, writeAll_append, inductionHypothesis, writesLine, ← unlines_append]
    rfl

end Span

namespace Terminal

/-- The lines of labels are written behind an indentation. -/
theorem writeAll_labelLines (indent : String) (labels : List Label) :
    Span.writeAll false (labelLines (indent ++ "  ") labels) =
      unlines ((Label.lines labels).map (indent ++ ·)) := by
  have line (arrow : String) (label : Label) :
      Span.writeAll false (labelLine (indent ++ "  ") arrow label) =
        unlines [indent ++ label.line arrow] := by
    simp [Span.writeAll, labelLine, Span.write, unlines, Label.line, String.append_assoc]
  cases labels with
  | nil => rfl
  | cons first others =>
    rw [labelLines, Span.writeAll_append, line, Span.writeAll_flatMap false (line ":::"),
      ← unlines_append, Label.lines, List.map_cons, List.map_map]
    rfl

/-- The lines of remarks are written behind an indentation. -/
theorem writeAll_remarkLines (indent : String) (style : Style) (word : String)
    (texts : List String) :
    Span.writeAll false (texts.flatMap (remarkLine (indent ++ "  ") style word)) =
      unlines ((texts.map ("  = " ++ word ++ ": " ++ ·)).map (indent ++ ·)) := by
  have line (text : String) : Span.writeAll false (remarkLine (indent ++ "  ") style word text) =
      unlines [indent ++ ("  = " ++ word ++ ": " ++ text)] := by
    have mark : "  = " = "  " ++ "= " := rfl
    simp [-String.reduceAppend, Span.writeAll, remarkLine, Span.write, unlines, mark,
      String.append_assoc]
  rw [Span.writeAll_flatMap false line, List.map_map]
  rfl

/-- Without color, the lines of a diagnostic are written behind an indentation. -/
theorem writeAll_diagnostic (indent : String) (diagnostic : Diagnostic) :
    indent ++ Span.writeAll false (headline diagnostic ++ detailLines (indent ++ "  ") diagnostic) =
      unlines (diagnostic.lines.map (indent ++ ·)) := by
  have first : indent ++ Span.writeAll false (headline diagnostic) =
      unlines [indent ++ (diagnostic.severity.word ++ "[" ++ diagnostic.code.text ++ "]: " ++
        diagnostic.message)] := by
    have mark : "]: " = "]" ++ ": " := rfl
    simp [-String.reduceAppend, Span.writeAll, headline, Span.write, unlines, mark,
      String.append_assoc]
  rw [Span.writeAll_append, ← String.append_assoc, first, detailLines, Span.writeAll_append,
    Span.writeAll_append, writeAll_labelLines, writeAll_remarkLines, writeAll_remarkLines,
    ← unlines_append, ← unlines_append, ← unlines_append]
  simp [Diagnostic.lines]

variable (terminal : Terminal)

theorem text_eq_writeAll (colored : Bool) :
    terminal.text colored = Span.writeAll colored terminal.spans.toList := by
  rw [text, ← Array.foldl_toList, Span.writeAll, String.join, List.foldl_map]

/-- Spans are written behind what has been written. -/
theorem text_add (colored : Bool) (spans : List Span) :
    (terminal.add spans).text colored = terminal.text colored ++ Span.writeAll colored spans := by
  rw [text_eq_writeAll, text_eq_writeAll, ← Span.writeAll_append]
  simp [add]

theorem isStarted_add {spans : List Span} (notEmpty : spans ≠ []) :
    (terminal.add spans).isStarted = true := by
  have someSpan : (terminal.add spans).spans ≠ #[] := by
    intro empty
    have noSpans : terminal.spans.toList ++ spans = [] := by
      simpa [add] using congrArg Array.toList empty
    exact notEmpty (List.append_eq_nil_iff.mp noSpans).2
  simpa [isStarted] using someSpan

/-- Shows one entry. -/
def put (terminal : Terminal) : OutputEntry → Terminal
  | .diagnostic shown => terminal.emit shown
  | .summary errors warnings _ => terminal.summarize errors warnings

/-- Shows entries in order. -/
def putAll (terminal : Terminal) (entries : List OutputEntry) : Terminal :=
  entries.foldl put terminal

theorem summaryParts_eq_nil_iff {errors warnings : Nat} :
    summaryParts errors warnings = [] ↔ errors = 0 ∧ warnings = 0 := by
  simp [summaryParts]

/-- Totals that are not both zero are written. -/
theorem summarize_eq {errors warnings : Nat} (counts : errors ≠ 0 ∨ warnings ≠ 0) :
    terminal.summarize errors warnings =
      terminal.add (terminal.separator ++ [.styled .strong "summary",
        .plain (": " ++ ", ".intercalate (summaryParts errors warnings) ++ "\n")]) := by
  unfold summarize
  split
  case h_1 nothing =>
    obtain ⟨rfl, rfl⟩ := summaryParts_eq_nil_iff.mp nothing
    simp at counts
  case h_2 => rfl

/-- Totals that are both zero change nothing. -/
theorem summarize_zero : terminal.summarize 0 0 = terminal := rfl

theorem writeAll_separator :
    Span.writeAll false terminal.separator = if terminal.isStarted then "\n" else "" := by
  unfold separator
  split <;> rfl

variable {terminal : Terminal} {entry : OutputEntry}

/-- What opens a block is written behind an empty line, unless nothing was written before. -/
theorem put_opener (opens : (entry.isNote && terminal.isStarted) = false) :
    (terminal.put entry).isStarted = true ∧
      (terminal.put entry).text false =
        terminal.text false ++ (if terminal.isStarted then "\n" else "") ++
          unlines entry.lines := by
  obtain ⟨spans, isAdded, notEmpty, written⟩ : ∃ spans : List Span,
      terminal.put entry = terminal.add (terminal.separator ++ spans) ∧ spans ≠ [] ∧
        Span.writeAll false spans = unlines entry.lines := by
    cases entry with
    | diagnostic shown =>
      refine ⟨headline shown ++ detailLines "  " shown, ?_, List.cons_ne_nil _ _, ?_⟩
      · rw [← List.append_assoc]
        exact if_neg (Bool.eq_false_iff.mp opens)
      · simpa [OutputEntry.lines] using writeAll_diagnostic "" shown
    | summary errors warnings counts =>
      refine ⟨_, summarize_eq terminal counts, List.cons_ne_nil _ _, ?_⟩
      have mark : "summary: " = "summary" ++ ": " := rfl
      simp [-String.reduceAppend, Span.writeAll, Span.write, unlines, OutputEntry.lines, mark,
        String.append_assoc]
  rw [isAdded, text_add, Span.writeAll_append, writeAll_separator, written, String.append_assoc]
  exact ⟨isStarted_add terminal (by simp [notEmpty]), rfl⟩

/-- A note behind anything else is written without an empty line and with more indentation. -/
theorem put_note (isNote : entry.isNote = true) (started : terminal.isStarted = true) :
    (terminal.put entry).isStarted = true ∧
      (terminal.put entry).text false =
        terminal.text false ++ unlines (entry.lines.map ("  " ++ ·)) := by
  cases entry with
  | diagnostic shown =>
    have isAdded : terminal.put (.diagnostic shown) =
        terminal.add ([.plain "  "] ++ (headline shown ++ detailLines "    " shown)) := by
      rw [← List.append_assoc]
      exact if_pos (Bool.and_eq_true_iff.mpr ⟨isNote, started⟩)
    have written := writeAll_diagnostic "  " shown
    rw [isAdded, text_add, Span.writeAll_append]
    exact ⟨isStarted_add terminal (List.cons_ne_nil _ _), congrArg _ written⟩
  | summary errors warnings counts => exact absurd isNote Bool.false_ne_true

/-- Notes behind anything else go on in its block. -/
theorem putAll_notes {notes : List OutputEntry} (areNotes : ∀ note ∈ notes, note.isNote = true)
    (started : terminal.isStarted = true) :
    (terminal.putAll notes).isStarted = true ∧
      (terminal.putAll notes).text false = terminal.text false ++
        unlines (notes.flatMap fun note => note.lines.map ("  " ++ ·)) := by
  induction notes generalizing terminal with
  | nil => exact ⟨started, (String.append_empty).symm⟩
  | cons note rest inductionHypothesis =>
    obtain ⟨isNote, areOthers⟩ := List.forall_mem_cons.mp areNotes
    obtain ⟨goesOn, first⟩ := put_note isNote started
    obtain ⟨startedAll, others⟩ := inductionHypothesis areOthers goesOn
    refine ⟨startedAll, others.trans ?_⟩
    rw [first, List.flatMap_cons, unlines_append, String.append_assoc]

/-- A block is written behind an empty line, unless nothing was written before. -/
theorem putAll_block (block : OutputBlock)
    (opens : (block.opener.isNote && terminal.isStarted) = false) :
    (terminal.putAll block.entries).isStarted = true ∧
      (terminal.putAll block.entries).text false =
        terminal.text false ++ (if terminal.isStarted then "\n" else "") ++
          unlines block.lines := by
  obtain ⟨started, first⟩ := put_opener opens
  obtain ⟨startedAll, others⟩ := putAll_notes block.isNote_notes started
  refine ⟨startedAll, others.trans ?_⟩
  rw [first, OutputBlock.lines, unlines_append, String.append_assoc]

/-- Blocks behind other ones are written with an empty line before each. -/
theorem putAll_blocks {blocks : List OutputBlock}
    (opened : ∀ block ∈ blocks, block.opener.isNote = false) (started : terminal.isStarted = true) :
    (terminal.putAll (blocks.flatMap OutputBlock.entries)).text false =
      terminal.text false ++ unlines (blocks.flatMap fun block => "" :: block.lines) := by
  induction blocks generalizing terminal with
  | nil => exact String.append_empty.symm
  | cons block rest inductionHypothesis =>
    obtain ⟨isNotNote, othersOpened⟩ := List.forall_mem_cons.mp opened
    have opens : (block.opener.isNote && terminal.isStarted) = false := by simp [isNotNote]
    have emptyLine : unlines ("" :: block.lines) = "\n" ++ unlines block.lines := by simp [unlines]
    obtain ⟨goesOn, first⟩ := putAll_block block opens
    rw [started, if_pos rfl] at first
    have others := inductionHypothesis othersOpened goesOn
    rw [List.flatMap_cons, putAll, List.foldl_append]
    refine others.trans ?_
    rw [first, List.flatMap_cons, unlines_append, emptyLine, String.append_assoc,
      String.append_assoc, String.append_assoc]

/-- The lines of blocks with one empty line between two of them are written. -/
theorem text_putAll {blocks : List OutputBlock} {entries : List OutputEntry}
    (reads : OutputBlock.Reads blocks entries) :
    (putAll {} entries).text false =
      unlines ([""].intercalate (blocks.map OutputBlock.lines)) := by
  obtain ⟨rfl, opened⟩ := reads
  cases blocks with
  | nil => rfl
  | cons block others =>
    have opens : (block.opener.isNote && ({} : Terminal).isStarted) = false := Bool.and_false _
    obtain ⟨started, first⟩ := putAll_block block opens
    rw [List.flatMap_cons, putAll, List.foldl_append]
    refine (putAll_blocks opened started).trans ?_
    rw [first, List.map_cons, intercalate_cons, List.flatMap_map, unlines_append]
    simp [text, isStarted]

end Terminal

namespace TerminalCall

/-- A call shows its entries. -/
theorem perform_eq_putAll (terminal : Terminal) (call : TerminalCall) :
    perform terminal call = terminal.putAll call.entries := by
  cases call with
  | emit diagnostic => rfl
  | emitAll diagnostics =>
    rw [entries, Terminal.putAll, List.foldl_map]
    rfl
  | summarize errors warnings =>
    by_cases counts : errors ≠ 0 ∨ warnings ≠ 0
    · rw [entries, dif_pos counts]
      rfl
    · obtain ⟨rfl, rfl⟩ : errors = 0 ∧ warnings = 0 := by simpa using counts
      rw [entries, dif_neg counts]
      rfl

/-- Calls show their entries in order. -/
theorem performAll_eq_putAll (terminal : Terminal) (calls : List TerminalCall) :
    performAll terminal calls = terminal.putAll (calls.flatMap entries) := by
  induction calls generalizing terminal with
  | nil => rfl
  | cons call rest inductionHypothesis =>
    rw [List.flatMap_cons, Terminal.putAll, List.foldl_append]
    refine (inductionHypothesis (perform terminal call)).trans ?_
    rw [perform_eq_putAll]
    rfl

end TerminalCall

end ForeignBindings
