/-!
# Paths

Paths are texts whose parts are separated by `/`. Repeated and trailing
separators and inner `.` do not count. A leading `.` does: it is a part of its
own.
-/

namespace ForeignBindings

/-- A part of a path. -/
inductive PathPart where
  | root
  /-- A leading `.` of a path that starts at no root. -/
  | current
  | parent
  | name (text : String)
deriving DecidableEq, Repr, Inhabited

namespace PathPart

/-- The part that the text between two separators stands for behind the first one. An empty
text and a `.` stand for none. -/
def ofInner? (text : String) : Option PathPart :=
  if text = "" || text = "." then none
  else if text = ".." then some parent
  else some (name text)

/-- The part that the text before the first separator stands for. -/
def ofFirst? (text : String) : Option PathPart :=
  if text = "." then some current else ofInner? text

/-- The name, if the part is one. -/
def name? : PathPart → Option String
  | name text => some text
  | root | current | parent => none

end PathPart

namespace Path

/-- The texts between the separators: one more than there are separators. -/
def splitCharacters : List Char → List (List Char)
  | [] => [[]]
  | character :: rest =>
    if character = '/' then [] :: splitCharacters rest
    else match splitCharacters rest with
      | [] => [[character]]
      | piece :: pieces => (character :: piece) :: pieces

/-- The texts between the separators of a path. -/
def pieces (path : String) : List String := (splitCharacters path.toList).map String.ofList

/-- Whether a path starts at the root. -/
def isAbsolute (path : String) : Bool := path.toList.head? == some '/'

/-- The parts of a path. -/
def parts (path : String) : List PathPart :=
  match pieces path with
  | [] => []
  | first :: rest =>
    let start := if isAbsolute path then some .root else PathPart.ofFirst? first
    start.toList ++ rest.filterMap PathPart.ofInner?

/-- A path inside a directory; an absolute path takes the place of the directory. -/
def join (directory path : String) : String :=
  if isAbsolute path then path
  else if directory = "" || directory.toList.getLast? == some '/' then directory ++ path
  else directory ++ "/" ++ path

/-- The pieces of a path up to its last part: the empty texts and `.` behind it do not count. -/
def significant : List String → List String
  | [] => []
  | first :: rest =>
    first :: (rest.reverse.dropWhile fun piece => piece = "" || piece = ".").reverse

/-- The path of the pieces between its separators. -/
def ofPieces (pieces : List String) : String := "/".intercalate pieces

/-- The last part of a path, if it is a name. -/
def fileName? (path : String) : Option String :=
  match (significant (pieces path)).getLast? with
  | none => none
  | some piece => if piece = "" || piece = "." || piece = ".." then none else some piece

/-- Splits a file name at its last dot. A dot in front of everything else splits nothing. -/
def splitExtension? (name : String) : Option (String × String) :=
  let reversed := name.toList.reverse
  let extension := (reversed.takeWhile (· ≠ '.')).reverse
  let stem := ((reversed.dropWhile (· ≠ '.')).drop 1).reverse
  if stem.isEmpty then none else some (String.ofList stem, String.ofList extension)

/-- What follows the last dot of the file name. -/
def extension? (path : String) : Option String :=
  ((fileName? path).bind splitExtension?).map Prod.snd

/-- The path without the extension of its file name. Only the last part of the path changes;
what does not count behind it goes. A path that ends in `..x` keeps both dots. -/
def withoutExtension (path : String) : String :=
  let given := pieces path
  let kept := significant given
  match fileName? path with
  | none => path
  | some name =>
    match splitExtension? name with
    | none => ofPieces kept
    | some (stem, _) =>
      ofPieces (kept.dropLast ++ [if stem = "." && kept = given then ".." else stem])

/-- The path of the directory that a path lies in. The root and the empty path lie in none. -/
def parent? (path : String) : Option String :=
  match significant (pieces path) with
  | [] => none
  | [first] => if first = "" then none else some ""
  | kept =>
    match significant kept.dropLast with
    | [""] => some "/"
    | above => some (ofPieces above)

end Path

end ForeignBindings
