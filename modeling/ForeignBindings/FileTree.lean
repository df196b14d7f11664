import ForeignBindings.NameMap
import ForeignBindings.Path

/-!
# File trees

The files and directories below a working directory, and what happens when they
are read and written. Paths are relative; an absolute path, or one that leaves
the tree, leads nowhere.
-/

namespace ForeignBindings

/-- Why a file cannot be read or written. -/
inductive FileFault where
  | missing
  | alreadyExists
  /-- A part of the path in front of the last one is a file. -/
  | notDirectory
  | isDirectory
  /-- Any other reason that a file system gives. -/
  | other (text : String)
deriving DecidableEq, Repr, Inhabited

/-- The reason in words. -/
def FileFault.message : FileFault → String
  | missing => "No such file or directory (os error 2)"
  | alreadyExists => "File exists (os error 17)"
  | notDirectory => "Not a directory (os error 20)"
  | isDirectory => "Is a directory (os error 21)"
  | other text => text

/-- What a path leads to. -/
inductive FileNode where
  | directory
  | file (text : String)
deriving DecidableEq, Repr, Inhabited

/-- The files and directories below a working directory, by the names on the way to them with
`/` between. -/
structure FileTree where
  nodes : NameMap FileNode := .empty
deriving DecidableEq, Repr, Inhabited

namespace FileTree

/-- The key of what the names lead to. -/
def keyOf (place : List String) : String := "/".intercalate place

/-- What the names lead to. -/
def node? (tree : FileTree) (place : List String) : Option FileNode :=
  if place.isEmpty then some .directory else tree.nodes.find? (keyOf place)

/-- Puts something where the names lead to. -/
def put (tree : FileTree) (place : List String) (node : FileNode) : FileTree :=
  ⟨tree.nodes.insert (keyOf place) node⟩

/-- Follows the pieces of a path. All but the last have to lead to directories; the last one
need not lead to anything. -/
def follow (tree : FileTree) (place : List String) :
    (pieces : List String) → Except FileFault (List String)
  | [] => .ok place
  | piece :: rest =>
    match tree.node? place with
    | none => .error .missing
    | some (.file _) => .error .notDirectory
    | some .directory =>
      if piece = "" || piece = "." then tree.follow place rest
      else if piece = ".." then
        if place.isEmpty then .error .missing else tree.follow place.dropLast rest
      else tree.follow (place ++ [piece]) rest

/-- The names that a path leads over. -/
def locate (tree : FileTree) (path : String) : Except FileFault (List String) :=
  if path = "" || Path.isAbsolute path then .error .missing
  else tree.follow [] (Path.pieces path)

/-- Whether a path leads to a directory. -/
def isDirectory (tree : FileTree) (path : String) : Bool :=
  match tree.locate path with
  | .ok place => tree.node? place == some .directory
  | .error _ => false

/-- Reads a file. -/
def read (tree : FileTree) (path : String) : Except FileFault String := do
  match tree.node? (← tree.locate path) with
  | none => .error .missing
  | some .directory => .error .isDirectory
  | some (.file text) => .ok text

/-- Makes a directory in a directory that exists. -/
def makeDirectory (tree : FileTree) (path : String) : Except FileFault FileTree := do
  let place ← tree.locate path
  match tree.node? place with
  | none => .ok (tree.put place .directory)
  | some _ => .error .alreadyExists

/-- Makes a directory, unless it exists. -/
def ensureDirectory (tree : FileTree) (path : String) : Except FileFault FileTree :=
  match tree.makeDirectory path with
  | .ok changed => .ok changed
  | .error fault => if tree.isDirectory path then .ok tree else .error fault

/-- Makes a directory and all that it lies in, of which there are less than `fuel`. What was
made stays if a later step fails. -/
def makeWithin (tree : FileTree) : (fuel : Nat) → String → Except FileFault Unit × FileTree
  | 0, _ => (.error .missing, tree)
  | fuel + 1, path =>
    if path = "" then (.ok (), tree)
    else match tree.ensureDirectory path with
      | .ok changed => (.ok (), changed)
      | .error .missing =>
        match Path.parent? path with
        | none => (.error .missing, tree)
        | some above =>
          match tree.makeWithin fuel above with
          | (.error fault, changed) => (.error fault, changed)
          | (.ok (), changed) =>
            match changed.ensureDirectory path with
            | .ok made => (.ok (), made)
            | .error fault => (.error fault, changed)
      | .error fault => (.error fault, tree)

/-- Makes a directory and all that it lies in. -/
def makeDirectories (tree : FileTree) (path : String) : Except FileFault Unit × FileTree :=
  tree.makeWithin ((Path.pieces path).length + 1) path

/-- Writes a file in a directory that exists. A file that it had before gives way. -/
def writeFile (tree : FileTree) (path text : String) : Except FileFault FileTree := do
  let place ← tree.locate path
  if tree.node? place = some .directory then .error .isDirectory
  else .ok (tree.put place (.file text))

/-- Writes a file after making the directory that it lies in. -/
def write (tree : FileTree) (path text : String) : Except FileFault Unit × FileTree :=
  match tree.makeDirectories ((Path.parent? path).getD "") with
  | (.error fault, tree) => (.error fault, tree)
  | (.ok (), tree) =>
    match tree.writeFile path text with
    | .ok changed => (.ok (), changed)
    | .error fault => (.error fault, tree)

/-- The files of a tree with their texts, in the order of their paths. -/
def files (tree : FileTree) : List (String × String) :=
  tree.nodes.entries.filterMap fun entry =>
    match entry.2 with
    | .file text => some (entry.1, text)
    | .directory => none

/-- The files of a tree that an earlier one lacks or has with another text. -/
def changesSince (tree earlier : FileTree) : List (String × String) :=
  tree.files.filter fun file => earlier.nodes.find? file.1 != some (.file file.2)

end FileTree

end ForeignBindings
