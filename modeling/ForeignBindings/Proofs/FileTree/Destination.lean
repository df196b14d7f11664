import ForeignBindings.Proofs.FileTree.Writing
import ForeignBindings.Proofs.Path.Parts
import ForeignBindings.Render.Module

/-!
# Where modules go

A module whose name is a piece of a path goes to a file of that name, next to the other modules
of the library. So two of them go to the same file only if their names are the same:
`Render.name_eq_of_destination_eq`. A name in which `/` occurs may lead anywhere.
-/

namespace ForeignBindings

namespace Path

/-- A path that ends in a name behind a separator leads over the name last. -/
theorem names_append (front : String) {name : String} (isName : IsName name) :
    names (front ++ "/" ++ name) = names front ++ [name] := by
  unfold names
  rw [pieces_append, pieces_eq_singleton isName.inner, List.foldl_append]
  simp [step, isName.notEmpty, isName.notCurrent, isName.notParent]

end Path

/-- The texts of a list with separators between end in the last one, behind what does not depend
on it. -/
theorem exists_intercalate_append (separator : String) (texts : List String) :
    ∃ front, ∀ last, separator.intercalate (texts ++ [last]) = front ++ last := by
  by_cases empty : texts = []
  · exact ⟨"", fun last => by simp [empty]⟩
  · refine ⟨separator.intercalate texts ++ separator, fun last => ?_⟩
    rw [String.intercalate_append_of_ne_nil empty (List.cons_ne_nil last []),
      String.intercalate_singleton]

namespace Render

/-- A file that a module has is named inside a directory. -/
theorem isAbsolute_fileName {name : String} (inner : '/' ∉ name.toList) :
    Path.isAbsolute (name ++ ".hs") = false := by
  unfold Path.isAbsolute
  rw [String.toList_append]
  cases letters : name.toList with
  | nil => rfl
  | cons letter rest =>
    rw [letters] at inner
    have notSeparator : letter ≠ '/' := fun same => inner (same ▸ List.mem_cons_self)
    simp [notSeparator]

/-- The directory of all modules, below that of the output. -/
def moduleDirectory (options : RenderOptions) : String := Path.join options.libraryName "LowLevel"

/-- The last character of the directory of modules. -/
theorem getLast?_moduleDirectory (options : RenderOptions) :
    (moduleDirectory options).toList.getLast? = some 'l' := by
  obtain ⟨front, ends⟩ : ∃ front, moduleDirectory options = front ++ "LowLevel" := by
    have notAbsolute : Path.isAbsolute "LowLevel" = false := by decide
    unfold moduleDirectory Path.join
    rw [notAbsolute, if_neg Bool.false_ne_true]
    split
    · exact ⟨_, rfl⟩
    · exact ⟨_, rfl⟩
  simp [ends, String.toList_append]

theorem moduleDirectory_ne_empty (options : RenderOptions) : moduleDirectory options ≠ "" := by
  intro empty
  have last := getLast?_moduleDirectory options
  simp [empty] at last

/-- A module whose name is a piece is a file in the directory of modules. -/
theorem modulePath_eq_append (options : RenderOptions) {name : String}
    (inner : '/' ∉ name.toList) :
    modulePath options name = moduleDirectory options ++ "/" ++ (name ++ ".hs") := by
  change Path.join (moduleDirectory options) (name ++ ".hs") = _
  unfold Path.join
  simp [isAbsolute_fileName inner, getLast?_moduleDirectory, moduleDirectory_ne_empty]

/-- Whether the path of a module is absolute does not depend on its name. -/
theorem isAbsolute_moduleDirectory_append (options : RenderOptions) (text : String) :
    Path.isAbsolute (moduleDirectory options ++ "/" ++ text) =
      Path.isAbsolute (moduleDirectory options) := by
  rw [String.append_assoc, Path.isAbsolute_append (moduleDirectory_ne_empty options)]

/-- The path of a module whose name is a piece ends in its file name, behind what does not depend
on the name. -/
theorem exists_front_modulePath (options : RenderOptions) (output : String) :
    ∃ front, ∀ name : String, '/' ∉ name.toList →
      Path.join output (modulePath options name) = front ++ "/" ++ (name ++ ".hs") := by
  by_cases isAbsolute : Path.isAbsolute (moduleDirectory options) = true
  · refine ⟨moduleDirectory options, fun name inner => ?_⟩
    unfold Path.join
    rw [modulePath_eq_append options inner, isAbsolute_moduleDirectory_append, isAbsolute,
      if_pos rfl]
  · refine ⟨Path.join output (moduleDirectory options), fun name inner => ?_⟩
    unfold Path.join
    rw [modulePath_eq_append options inner, isAbsolute_moduleDirectory_append, if_neg isAbsolute,
      if_neg isAbsolute]
    split <;> simp [String.append_assoc]

/-- Modules whose names are pieces go to the same file only if their names are the same. -/
theorem name_eq_of_destination_eq {options : RenderOptions} {output first second : String}
    (innerFirst : '/' ∉ first.toList) (innerSecond : '/' ∉ second.toList)
    (same : Path.destination (Path.join output (modulePath options first)) =
      Path.destination (Path.join output (modulePath options second))) :
    first = second := by
  obtain ⟨front, split⟩ := exists_front_modulePath options output
  obtain ⟨place, key⟩ := exists_intercalate_append "/" (Path.names front)
  have destination : ∀ name : String, '/' ∉ name.toList →
      Path.destination (Path.join output (modulePath options name)) = place ++ (name ++ ".hs") := by
    intro name inner
    have innerFile : '/' ∉ (name ++ ".hs").toList := by
      simpa [String.toList_append] using inner
    have long : ∀ text : String, text.length < 3 → name ++ ".hs" ≠ text := by
      rintro _ short rfl
      have extension : ".hs".length = 3 := rfl
      rw [String.length_append, extension] at short
      omega
    have isName : Path.IsName (name ++ ".hs") :=
      ⟨long "" (by decide), long "." (by decide), long ".." (by decide), innerFile⟩
    unfold Path.destination FileTree.keyOf
    rw [split name inner, Path.names_append front isName, key]
  rw [destination first innerFirst, destination second innerSecond] at same
  simpa using same

end Render

end ForeignBindings
