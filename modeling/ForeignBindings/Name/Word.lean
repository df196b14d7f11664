/-!
# Words of an identifier

An identifier is read as a list of words. Characters other than ASCII letters and
digits separate words and belong to none. Within a run of letters and digits a
word starts at an upper-case letter that follows something else, and at the last
letter of an upper-case run that a lower-case letter follows, so that the words
of `HTTPServer` are `HTTP` and `Server`. A run without lower-case letters is one
word.
-/

namespace ForeignBindings.Word

/-- The pieces between separators, empty ones included; there is always at least one. -/
def pieces : List Char → List (List Char)
  | [] => [[]]
  | character :: rest =>
    if character.isAlphanum then
      match pieces rest with
      | [] => [[character]]
      | piece :: others => (character :: piece) :: others
    else [] :: pieces rest

/-- The maximal runs of letters and digits. -/
def runs (name : List Char) : List (List Char) := (pieces name).filter fun piece => !piece.isEmpty

/-- Whether a text begins with a lower-case letter. -/
def startsLower : List Char → Bool
  | [] => false
  | first :: _ => first.isLower

/-- Whether a word starts at `current`, between the character before it and the text after. -/
def startsWord (previous current : Char) (after : List Char) : Bool :=
  current.isUpper && (!previous.isUpper || startsLower after)

/-- Cuts a run before every character that starts a word. -/
def cut : List Char → List (List Char)
  | [] => []
  | [character] => [[character]]
  | previous :: current :: after =>
    if startsWord previous current after then [previous] :: cut (current :: after)
    else
      match cut (current :: after) with
      | [] => [[previous]]
      | word :: others => (previous :: word) :: others

/-- The words of a run: the run itself unless it has a lower-case letter. -/
def ofRun (run : List Char) : List (List Char) :=
  if run.any Char.isLower then cut run else [run]

/-- The words of an identifier in order. -/
def segment (name : List Char) : List (List Char) := (runs name).flatMap ofRun

/-- The words of an identifier as texts. -/
def split (name : String) : List String := (segment name.toList).map String.ofList

end ForeignBindings.Word
