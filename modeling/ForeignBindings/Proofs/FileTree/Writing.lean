import ForeignBindings.FileTree

/-!
# Writing files

What a path leads to in a tree is what its pieces lead over, whatever else the tree holds, as
long as there are the directories on the way: `FileTree.follow_cons_eq_ok_iff`. A file that was
written is read back (`FileTree.read_of_write`), and it stays until another text is written to
a path that leads to the same file (`FileTree.Writes.read_of_writes`).
-/

namespace ForeignBindings

namespace Path

/-- The names that a piece of a path leads to from other names. -/
def step (place : List String) (piece : String) : List String :=
  if piece = "" || piece = "." then place
  else if piece = ".." then place.dropLast
  else place ++ [piece]

/-- The names that a path leads over, if there are all directories on the way. -/
def names (path : String) : List String := (pieces path).foldl step []

/-- The file that a path leads to, as the key of a tree. -/
def destination (path : String) : String := FileTree.keyOf (names path)

end Path

namespace FileTree

/-- One tree holds all that another one does. -/
def Extends (changed tree : FileTree) : Prop :=
  ∀ key node, tree.nodes.find? key = some node → changed.nodes.find? key = some node

/-- One tree has all directories of another one. -/
def HasDirectories (changed tree : FileTree) : Prop :=
  ∀ key, tree.nodes.find? key = some .directory → changed.nodes.find? key = some .directory

theorem Extends.refl (tree : FileTree) : tree.Extends tree := fun _ _ found => found

theorem Extends.trans {first second third : FileTree} (later : third.Extends second)
    (earlier : second.Extends first) : third.Extends first :=
  fun key node found => later key node (earlier key node found)

theorem Extends.hasDirectories {changed tree : FileTree} (holds : changed.Extends tree) :
    changed.HasDirectories tree :=
  fun key found => holds key .directory found

section Follow

variable {tree changed : FileTree} {place : List String}

/-- What names lead to is found under their key, unless there are no names. -/
theorem node?_of_ne_nil (notEmpty : place ≠ []) :
    tree.node? place = tree.nodes.find? (keyOf place) := by
  unfold node?
  simp [notEmpty]

/-- No names lead to the directory that the tree lies in. -/
theorem node?_nil : tree.node? [] = some .directory := rfl

/-- A path is followed piece by piece, from a directory each time, and not out of the tree. -/
theorem follow_cons_eq_ok_iff {piece : String} {rest target : List String} :
    tree.follow place (piece :: rest) = .ok target ↔
      tree.node? place = some .directory ∧ (piece = ".." → place ≠ []) ∧
        tree.follow (Path.step place piece) rest = .ok target := by
  rw [follow, Path.step]
  cases tree.node? place with
  | none => simp
  | some node =>
    cases node with
    | file text => simp
    | directory =>
      by_cases skipped : (piece = "" || piece = ".") = true
      · have notUp : piece ≠ ".." := by
          rintro rfl
          simp at skipped
        simp [skipped, notUp]
      · by_cases up : piece = ".."
        · by_cases outside : place = [] <;> simp [up, outside]
        · simp [skipped, up]

/-- A followed path ends where its pieces lead. -/
theorem eq_foldl_of_follow {pieces target : List String}
    (found : tree.follow place pieces = .ok target) : target = pieces.foldl Path.step place := by
  induction pieces generalizing place with
  | nil => exact (Except.ok.inj found).symm
  | cons piece rest inductionHypothesis =>
    exact inductionHypothesis (follow_cons_eq_ok_iff.mp found).2.2

/-- A directory stays one. -/
theorem HasDirectories.node? (kept : changed.HasDirectories tree)
    (isDirectory : tree.node? place = some .directory) :
    changed.node? place = some .directory := by
  by_cases empty : place = []
  · rw [empty, node?_nil]
  · rw [node?_of_ne_nil empty] at isDirectory ⊢
    exact kept _ isDirectory

/-- A followed path ends in the same place where there are all directories. -/
theorem HasDirectories.follow (kept : changed.HasDirectories tree) {pieces target : List String}
    (found : tree.follow place pieces = .ok target) :
    changed.follow place pieces = .ok target := by
  induction pieces generalizing place with
  | nil => exact found
  | cons piece rest inductionHypothesis =>
    obtain ⟨isDirectory, inside, further⟩ := follow_cons_eq_ok_iff.mp found
    exact follow_cons_eq_ok_iff.mpr ⟨kept.node? isDirectory, inside, inductionHypothesis further⟩

/-- A path that leads somewhere leads over its names. -/
theorem eq_names_of_locate {path : String} (found : tree.locate path = .ok place) :
    place = Path.names path := by
  unfold locate at found
  split at found
  · cases found
  · exact eq_foldl_of_follow found

/-- A path leads to the same place where there are all directories. -/
theorem HasDirectories.locate (kept : changed.HasDirectories tree) {path : String}
    (found : tree.locate path = .ok place) : changed.locate path = .ok place := by
  unfold FileTree.locate at found ⊢
  split at found
  · cases found
  · rename_i leads
    rw [if_neg leads]
    exact kept.follow found

end Follow

section Read

variable {tree changed : FileTree} {path text : String}

/-- A file is read where a path leads to it. -/
theorem read_eq_ok_iff :
    tree.read path = .ok text ↔
      tree.locate path = .ok (Path.names path) ∧
        tree.nodes.find? (Path.destination path) = some (.file text) ∧ Path.names path ≠ [] := by
  unfold read
  constructor
  case mp =>
    intro found
    cases located : tree.locate path with
    | error fault => simp [located, bind, Except.bind] at found
    | ok place =>
      obtain rfl := eq_names_of_locate located
      simp only [located, bind, Except.bind] at found
      have notEmpty : Path.names path ≠ [] := by
        intro empty
        simp [empty, node?_nil] at found
      rw [node?_of_ne_nil notEmpty] at found
      split at found
      · cases found
      · cases found
      · rename_i held isFile
        cases found
        exact ⟨rfl, isFile, notEmpty⟩
  case mpr =>
    rintro ⟨located, held, notEmpty⟩
    unfold Path.destination at held
    simp [located, bind, Except.bind, node?_of_ne_nil notEmpty, held]

/-- A file is read where there are all directories and the file. -/
theorem HasDirectories.read (kept : changed.HasDirectories tree) (found : tree.read path = .ok text)
    {now : String} (held : changed.nodes.find? (Path.destination path) = some (.file now)) :
    changed.read path = .ok now := by
  obtain ⟨located, -, notEmpty⟩ := read_eq_ok_iff.mp found
  exact read_eq_ok_iff.mpr ⟨kept.locate located, held, notEmpty⟩

end Read

section Make

variable {tree changed : FileTree} {path : String}

/-- A new directory takes the place of nothing. -/
theorem extends_of_makeDirectory (made : tree.makeDirectory path = .ok changed) :
    changed.Extends tree := by
  unfold makeDirectory at made
  cases located : tree.locate path with
  | error fault => simp [located, bind, Except.bind] at made
  | ok place =>
    simp only [located, bind, Except.bind] at made
    split at made
    case h_1 absent =>
      cases made
      have notEmpty : place ≠ [] := by
        rintro rfl
        simp [node?_nil] at absent
      intro key node found
      rw [node?_of_ne_nil notEmpty] at absent
      unfold put
      rw [OrderedMap.find?_insert, if_neg]
      · exact found
      · rintro rfl
        simp [absent] at found
    case h_2 => cases made

/-- Nor does a directory that is made unless it exists. -/
theorem extends_of_ensureDirectory (made : tree.ensureDirectory path = .ok changed) :
    changed.Extends tree := by
  unfold ensureDirectory at made
  split at made
  case h_1 made' =>
    cases made
    exact extends_of_makeDirectory made'
  case h_2 =>
    split at made
    · cases made
      exact .refl tree
    · cases made

/-- Nor does a directory that is made with all that it lies in, whether this succeeds or not. -/
theorem extends_makeWithin (fuel : Nat) : (tree.makeWithin fuel path).2.Extends tree := by
  induction fuel generalizing path with
  | zero => exact .refl tree
  | succ fuel inductionHypothesis =>
    unfold makeWithin
    split
    · exact .refl tree
    · split
      case h_1 changed made => exact extends_of_ensureDirectory made
      case h_2 =>
        split
        case h_1 => exact .refl tree
        case h_2 above _ =>
          have madeAbove : (tree.makeWithin fuel above).2.Extends tree := inductionHypothesis
          cases outcome : tree.makeWithin fuel above with
          | mk result changed =>
            rw [outcome] at madeAbove
            cases result with
            | error fault => exact madeAbove
            | ok _ =>
              dsimp only
              split
              · exact (extends_of_ensureDirectory ‹_›).trans madeAbove
              · exact madeAbove
      case h_3 => exact .refl tree

end Make

/-- One tree comes from another by putting a file where there was no directory. -/
structure HasFile (changed tree : FileTree) (path text : String) : Prop where
  located : tree.locate path = .ok (Path.names path)
  notEmpty : Path.names path ≠ []
  nodes : ∀ key, changed.nodes.find? key =
    if key = Path.destination path then some (.file text) else tree.nodes.find? key
  free : tree.nodes.find? (Path.destination path) ≠ some .directory

section Write

variable {tree changed : FileTree} {path text : String}

/-- A file is written where the path leads to. -/
theorem hasFile_of_writeFile (written : tree.writeFile path text = .ok changed) :
    changed.HasFile tree path text := by
  unfold writeFile at written
  cases located : tree.locate path with
  | error fault => simp [located, bind, Except.bind] at written
  | ok place =>
    obtain rfl := eq_names_of_locate located
    simp only [located, bind, Except.bind] at written
    split at written
    case isTrue => cases written
    case isFalse notDirectory =>
      cases written
      have notEmpty : Path.names path ≠ [] := by
        intro empty
        simp [empty, node?_nil] at notDirectory
      rw [node?_of_ne_nil notEmpty] at notDirectory
      exact ⟨located, notEmpty, fun key => OrderedMap.find?_insert _ _ _ _, notDirectory⟩

theorem HasFile.hasDirectories (has : changed.HasFile tree path text) :
    changed.HasDirectories tree := by
  intro key found
  rw [has.nodes, if_neg]
  · exact found
  · rintro rfl
    exact has.free found

/-- A tree in which a file was written is one with all directories, in which the file was put. -/
theorem exists_hasFile_of_write (written : tree.write path text = (.ok (), changed)) :
    ∃ middle : FileTree, middle.Extends tree ∧ changed.HasFile middle path text := by
  unfold write at written
  have made : (tree.makeDirectories ((Path.parent? path).getD "")).2.Extends tree :=
    extends_makeWithin _
  cases outcome : tree.makeDirectories ((Path.parent? path).getD "") with
  | mk result middle =>
    rw [outcome] at written made
    cases result with
    | error fault => cases written
    | ok _ =>
      dsimp only at written
      split at written
      case h_1 file put =>
        cases written
        exact ⟨middle, made, hasFile_of_writeFile put⟩
      case h_2 => cases written

/-- A file that was written is read back. -/
theorem read_of_write (written : tree.write path text = (.ok (), changed)) :
    changed.read path = .ok text := by
  obtain ⟨middle, -, has⟩ := exists_hasFile_of_write written
  have located := has.hasDirectories.locate has.located
  have held : changed.nodes.find? (Path.destination path) = some (.file text) := by
    rw [has.nodes, if_pos rfl]
  exact read_eq_ok_iff.mpr ⟨located, held, has.notEmpty⟩

/-- A file stays when another one is written, or the same one with the same text. -/
theorem read_of_write_other (written : tree.write path text = (.ok (), changed))
    {other held : String} (found : tree.read other = .ok held)
    (apart : Path.destination other = Path.destination path → held = text) :
    changed.read other = .ok held := by
  obtain ⟨middle, holds, has⟩ := exists_hasFile_of_write written
  have kept : changed.HasDirectories tree := fun key isDirectory =>
    has.hasDirectories key (holds.hasDirectories key isDirectory)
  refine kept.read found ?_
  rw [has.nodes]
  split
  case isTrue same => rw [apart same]
  case isFalse => exact holds _ _ (read_eq_ok_iff.mp found).2.1

end Write

/-- One tree comes from another by writing files in order, each of which can be written. -/
inductive Writes : FileTree → List (String × String) → FileTree → Prop
  | nil {tree} : Writes tree [] tree
  | cons {tree next last file rest} (written : tree.write file.1 file.2 = (.ok (), next))
      (later : Writes next rest last) : Writes tree (file :: rest) last

/-- A file stays when others are written, or the same one with the same text. -/
theorem Writes.read_of_read {tree last : FileTree} {files : List (String × String)}
    (writes : Writes tree files last) {path text : String} (found : tree.read path = .ok text)
    (apart : ∀ file ∈ files, Path.destination path = Path.destination file.1 → text = file.2) :
    last.read path = .ok text := by
  induction writes with
  | nil => exact found
  | cons written later inductionHypothesis =>
    obtain ⟨first, others⟩ := List.forall_mem_cons.mp apart
    exact inductionHypothesis (read_of_write_other written found first) others

/-- What was written last to a file is read back, where a path leads to the same file as another
one if their destinations are the same. -/
theorem Writes.read_of_writes {tree last : FileTree} {earlier later : List (String × String)}
    {file : String × String} (writes : Writes tree (earlier ++ file :: later) last)
    (apart : ∀ other ∈ later,
      Path.destination file.1 = Path.destination other.1 → file.2 = other.2) :
    last.read file.1 = .ok file.2 := by
  induction earlier generalizing tree with
  | nil =>
    cases writes with
    | cons written rest => exact rest.read_of_read (read_of_write written) apart
  | cons first others inductionHypothesis =>
    cases writes with
    | cons written rest => exact inductionHypothesis rest

end FileTree

end ForeignBindings
