import ForeignBindings.Diagnostic

/-!
# Terminal output

A warning and the notes after it form one block. Notes are indented under what
they belong to, and an empty line separates blocks:

    warning[E2002]: declaration is ignored
      --> api.h:12:5: declared here
      note[E2008]: in declaration for parameter

    summary: 1 warning

Output is a list of spans, of which some have a style. Color is added only when
the spans are written, so it cannot change the text that they carry.
-/

namespace ForeignBindings

/-- When output is colored. -/
inductive ColorMode where
  /-- Colored if the output goes to a terminal. -/
  | auto
  | always
  | never
deriving DecidableEq, Repr, Inhabited

namespace ColorMode

/-- Every color mode. -/
def all : List ColorMode := [auto, always, never]

/-- The word that names a color mode. -/
def word : ColorMode → String
  | auto => "auto"
  | always => "always"
  | never => "never"

/-- Whether a mode colors output that goes to a terminal or to something else. -/
def isColored (mode : ColorMode) (toTerminal : Bool) : Bool :=
  match mode with
  | auto => toTerminal
  | always => true
  | never => false

end ColorMode

/-- How a span of terminal output is set off. -/
inductive Style where
  | severity (severity : Severity)
  | location
  | help
  | strong
deriving DecidableEq, Repr

/-- The escape sequence that turns a style on. -/
def Style.escape : Style → String
  | .severity .error => "\x1b[1;31m"
  | .severity .warning => "\x1b[1;33m"
  | .severity .note => "\x1b[1;36m"
  | .location => "\x1b[1;34m"
  | .help => "\x1b[1;32m"
  | .strong => "\x1b[1m"

/-- A piece of terminal output. -/
inductive Span where
  | plain (text : String)
  | styled (style : Style) (text : String)
deriving DecidableEq, Repr

namespace Span

/-- The escape sequence that turns every style off. -/
def reset : String := "\x1b[0m"

/-- The span as written with or without color. -/
def write (colored : Bool) : Span → String
  | plain text => text
  | styled style text => if colored then style.escape ++ text ++ reset else text

end Span

/-- What has been written to a terminal. -/
structure Terminal where
  spans : Array Span := #[]
deriving DecidableEq, Repr, Inhabited

namespace Terminal

/-- Whether anything was written, so that the next block needs an empty line before it. -/
def isStarted (terminal : Terminal) : Bool := !terminal.spans.isEmpty

/-- Writes spans after what has been written. -/
def add (terminal : Terminal) (spans : List Span) : Terminal :=
  ⟨terminal.spans.appendList spans⟩

/-- All that was written. -/
def text (terminal : Terminal) (colored : Bool) : String :=
  terminal.spans.foldl (fun written span => written ++ span.write colored) ""

/-- The empty line before a block, unless the block is the first. -/
def separator (terminal : Terminal) : List Span :=
  if terminal.isStarted then [.plain "\n"] else []

/-- The first line of a diagnostic. -/
def headline (diagnostic : Diagnostic) : List Span :=
  [.styled (.severity diagnostic.severity)
      (diagnostic.severity.word ++ "[" ++ diagnostic.code.text ++ "]"),
    .plain (": " ++ diagnostic.message ++ "\n")]

/-- The line of a label, with the arrow that leads to its location. -/
def labelLine (indent arrow : String) (label : Label) : List Span :=
  [.plain indent, .styled .location (arrow ++ " " ++ label.location.display),
    .plain (": " ++ label.message ++ "\n")]

/-- The lines of the labels; the first one has an arrow of its own. -/
def labelLines (indent : String) : List Label → List Span
  | [] => []
  | first :: others =>
    labelLine indent "-->" first ++ others.flatMap (labelLine indent ":::")

/-- A line with a remark under a diagnostic. -/
def remarkLine (indent : String) (style : Style) (word text : String) : List Span :=
  [.plain (indent ++ "= "), .styled style word, .plain (": " ++ text ++ "\n")]

/-- All lines of a diagnostic after its first one, behind an indentation. -/
def detailLines (indent : String) (diagnostic : Diagnostic) : List Span :=
  labelLines indent diagnostic.labels ++
    diagnostic.notes.flatMap (remarkLine indent .strong "note") ++
    diagnostic.suggestions.flatMap (remarkLine indent .help "help")

/-- Writes a diagnostic. A note continues the block before it; anything else, and a note
that comes first, opens a block. -/
def emit (terminal : Terminal) (diagnostic : Diagnostic) : Terminal :=
  if diagnostic.isNote && terminal.isStarted then
    terminal.add ([.plain "  "] ++ headline diagnostic ++ detailLines "    " diagnostic)
  else
    terminal.add (terminal.separator ++ headline diagnostic ++ detailLines "  " diagnostic)

/-- Writes diagnostics in order. -/
def emitAll (terminal : Terminal) (diagnostics : List Diagnostic) : Terminal :=
  diagnostics.foldl emit terminal

/-- A number of things, with the noun in the plural unless there is just one. -/
def counted (count : Nat) (noun : String) : String :=
  toString count ++ " " ++ noun ++ (if count = 1 then "" else "s")

/-- The parts of a summary: what did not occur is left out. -/
def summaryParts (errors warnings : Nat) : List String :=
  ([(errors, "error"), (warnings, "warning")].filter fun part => part.1 != 0).map
    fun part => counted part.1 part.2

/-- Writes the totals of a run, unless both are zero. -/
def summarize (terminal : Terminal) (errors warnings : Nat) : Terminal :=
  match summaryParts errors warnings with
  | [] => terminal
  | parts =>
    terminal.add (terminal.separator ++
      [.styled .strong "summary", .plain (": " ++ ", ".intercalate parts ++ "\n")])

end Terminal

end ForeignBindings
