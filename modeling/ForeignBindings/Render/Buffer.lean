/-!
# Text buffers

Generated text with the indentation of the lines to come. One level of
indentation is two spaces.
-/

namespace ForeignBindings

/-- Text written so far, and the level of indentation. -/
structure Buffer where
  text : String := ""
  depth : Nat := 0
deriving DecidableEq, Repr, Inhabited

namespace Buffer

/-- The spaces in front of a line at a level of indentation. -/
def indentation (depth : Nat) : String := String.ofList (List.replicate (2 * depth) ' ')

/-- Goes one level in. -/
def indent (buffer : Buffer) : Buffer := { buffer with depth := buffer.depth + 1 }

/-- Goes one level out; the outermost level stays. -/
def dedent (buffer : Buffer) : Buffer := { buffer with depth := buffer.depth - 1 }

/-- Writes a text as it is. -/
def write (buffer : Buffer) (text : String) : Buffer :=
  { buffer with text := buffer.text ++ text }

/-- Writes the spaces in front of a line. -/
def writeIndentation (buffer : Buffer) : Buffer := buffer.write (indentation buffer.depth)

/-- Ends a line. -/
def newline (buffer : Buffer) : Buffer := buffer.write "\n"

/-- Writes an indented line. -/
def writeLine (buffer : Buffer) (line : String) : Buffer :=
  (buffer.writeIndentation.write line).newline

/-- Takes the text; the level of indentation stays. -/
def take (buffer : Buffer) : String × Buffer := (buffer.text, { buffer with text := "" })

end Buffer

end ForeignBindings
