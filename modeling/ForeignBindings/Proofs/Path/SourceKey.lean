import ForeignBindings.Proofs.Path.Parts
import ForeignBindings.SourceFile

/-!
# Keys of source files

The key of a source file is made of names with separators between them, so that it is a path in
normal form. It depends on the path of the file below the root directory alone, where a directory
is a root by its parts and not by its text: `SourceFile.key_normal_and_relative`.
-/

namespace ForeignBindings.SourceFile

/-- What is left behind the parts of a root is what they are continued by. -/
theorem below?_eq_some_iff {root file below : List PathPart} :
    below? root file = some below ↔ file = root ++ below := by
  induction root generalizing file with
  | nil => exact Option.some_inj.trans Iff.rfl
  | cons wanted rest inductionHypothesis =>
    cases file with
    | nil => simp [below?]
    | cons part others =>
      unfold below?
      by_cases same : wanted = part
      · rw [if_pos same, inductionHypothesis, same, List.cons_append, List.cons_inj_right]
      · simp [same, Ne.symm same]

/-- The names in a key: those below the root directory, or all if the file lies elsewhere. -/
def keyNames (file root : String) : List String :=
  Path.namesOf ((below? (Path.parts root) (Path.parts file)).getD (Path.parts file))

theorem key_eq_intercalate (file root : String) :
    key file root = "/".intercalate (keyNames file root) := rfl

/-- The names in the key of a file below the root directory. -/
theorem keyNames_of_below {file root : String} {below : List PathPart}
    (continued : Path.parts file = Path.parts root ++ below) :
    keyNames file root = Path.namesOf below := by
  rw [keyNames, below?_eq_some_iff.mpr continued, Option.getD_some]

/-- Without a root directory the key has all names of the path. -/
theorem keyNames_empty (file : String) : keyNames file "" = Path.namesOf (Path.parts file) :=
  keyNames_of_below rfl

/-- A file that does not lie below the root directory has the key that it has without one. -/
theorem key_of_not_below {file root : String} (elsewhere : ¬ Path.parts root <+: Path.parts file) :
    key file root = key file "" := by
  have nothing : below? (Path.parts root) (Path.parts file) = none := by
    rw [Option.eq_none_iff_forall_ne_some]
    intro below found
    exact elsewhere ⟨below, (below?_eq_some_iff.mp found).symm⟩
  rw [key_eq_intercalate, key_eq_intercalate, keyNames_empty, keyNames, nothing, Option.getD_none]

/-- What stands in a key is a name. -/
theorem isName_of_mem_keyNames {file root name : String} (member : name ∈ keyNames file root) :
    Path.IsName name := by
  have onPath : name ∈ Path.namesOf (Path.parts file) := by
    cases found : below? (Path.parts root) (Path.parts file) with
    | none => rwa [keyNames, found, Option.getD_none] at member
    | some below =>
      rw [keyNames, found, Option.getD_some, Path.mem_namesOf_iff] at member
      rw [below?_eq_some_iff.mp found, Path.mem_namesOf_iff]
      exact List.mem_append_right _ member
  exact Path.isName_of_mem_namesOf_parts onPath

/-- Names with separators between them are their own key. -/
theorem key_intercalate {names : List String} (areNames : ∀ name ∈ names, Path.IsName name) :
    key ("/".intercalate names) "" = "/".intercalate names := by
  rw [key_eq_intercalate, keyNames_empty, Path.namesOf_parts_intercalate areNames]

/-- Names with separators between them do not begin or end with a separator, and no two
separators stand beside each other. -/
theorem separates_intercalate {names : List String} (areNames : ∀ name ∈ names, Path.IsName name) :
    ("/".intercalate names).toList.head? ≠ some '/' ∧
      ("/".intercalate names).toList.getLast? ≠ some '/' ∧
      ¬ ['/', '/'] <:+: ("/".intercalate names).toList := by
  by_cases empty : names = []
  · subst empty
    simp
  · refine Text.separates_of_no_empty_piece fun isPiece => ?_
    have emptyPiece : "" ∈ Path.pieces ("/".intercalate names) := by
      rw [Path.pieces_eq_map_splitOn]
      exact List.mem_map.mpr ⟨[], isPiece, rfl⟩
    rw [Path.pieces_intercalate (fun name member => (areNames name member).inner) empty]
      at emptyPiece
    exact (areNames "" emptyPiece).notEmpty rfl

/-- The key of a file inside the root directory is that of its path from there. -/
theorem key_inside (root rest : String) : key (root ++ "/" ++ rest) root = key rest "" := by
  have names : keyNames (root ++ "/" ++ rest) root = Path.namesOf (Path.innerParts rest) := by
    by_cases empty : root = ""
    · subst empty
      rw [keyNames_empty, Path.namesOf_parts, Path.innerParts, Path.pieces_append]
      rfl
    · exact keyNames_of_below (Path.parts_append empty rest)
  rw [key_eq_intercalate, key_eq_intercalate, names, keyNames_empty, Path.namesOf_parts]

/-- The key of a source file is a list of names with separators between them, so none stands at
an end or beside another one, and it is its own key, as every such list of names is. A file below
the root directory has the names behind the root directory for its key; so it has the same key as
the path from there, however the root directory is written. A file elsewhere has all names of its
path, also if the text of its path begins with that of the root directory but its name there is a
longer one. -/
theorem key_normal_and_relative (file root : String) :
    (∃ names : List String, (∀ name ∈ names, Path.IsName name) ∧
      key file root = "/".intercalate names) ∧
    (key file root).toList.head? ≠ some '/' ∧ (key file root).toList.getLast? ≠ some '/' ∧
      ¬ ['/', '/'] <:+: (key file root).toList ∧
    key (key file root) "" = key file root ∧
    (∀ names : List String, (∀ name ∈ names, Path.IsName name) →
      key ("/".intercalate names) "" = "/".intercalate names) ∧
    (∀ below, Path.parts file = Path.parts root ++ below →
      key file root = "/".intercalate (Path.namesOf below)) ∧
    (∀ rest, key (root ++ "/" ++ rest) root = key rest "") ∧
    (¬ Path.parts root <+: Path.parts file → key file root = key file "") ∧
    (∀ stem more, (Path.pieces root).getLast? = some stem → Path.IsName stem →
      more ≠ "" → Path.isAbsolute more = false →
        ¬ Path.parts root <+: Path.parts (root ++ more) ∧
          key (root ++ more) root = key (root ++ more) "") := by
  have areNames : ∀ name ∈ keyNames file root, Path.IsName name :=
    fun name member => isName_of_mem_keyNames member
  obtain ⟨noneFirst, noneLast, noneBeside⟩ := separates_intercalate areNames
  refine ⟨⟨keyNames file root, areNames, rfl⟩, noneFirst, noneLast, noneBeside,
    key_intercalate areNames, fun names => key_intercalate, ?below, key_inside root,
    key_of_not_below, ?longer⟩
  case below =>
    intro below continued
    rw [key_eq_intercalate, keyNames_of_below continued]
  case longer =>
    intro stem more isLast isName notEmpty goesOn
    have elsewhere := Path.not_isPrefix_parts isLast isName notEmpty goesOn
    exact ⟨elsewhere, key_of_not_below elsewhere⟩

/-- A header below a root directory, both written with separators and dots that do not count, and
one in a directory whose name begins with that of the root directory. -/
theorem shapes_key_normal_and_relative :
    (Path.parts "/usr//include/./gfx/shapes.h" =
        Path.parts "/usr/include/" ++ [.name "gfx", .name "shapes.h"] ∧
      key "/usr//include/./gfx/shapes.h" "/usr/include/" = "gfx/shapes.h") ∧
    key "gfx/shapes.h" "" = "gfx/shapes.h" ∧
    key "includes/shapes.h" "include" = key "includes/shapes.h" "" := by
  have areNames : ∀ name ∈ ["gfx", "shapes.h"], Path.IsName name := by
    rintro name (_ | ⟨_, _ | ⟨_, ⟨⟩⟩⟩)
    · exact ⟨by decide, by decide, by decide, by decide⟩
    · exact ⟨by decide, by decide, by decide, by decide⟩
  have continued : Path.parts "/usr//include/./gfx/shapes.h" =
      Path.parts "/usr/include/" ++ [.name "gfx", .name "shapes.h"] := by decide +kernel
  have isName : Path.IsName "include" := ⟨by decide, by decide, by decide, by decide⟩
  have shapes := key_normal_and_relative "/usr//include/./gfx/shapes.h" "/usr/include/"
  have includes := key_normal_and_relative "includes/shapes.h" "include"
  obtain ⟨-, -, -, -, -, normal, below, -, -, -⟩ := shapes
  obtain ⟨-, -, -, -, -, -, -, -, elsewhere, longer⟩ := includes
  refine ⟨⟨continued, below _ continued⟩, normal _ areNames, elsewhere ?_⟩
  exact (longer "include" "s/shapes.h" rfl isName (by decide) (by decide)).1

end ForeignBindings.SourceFile
