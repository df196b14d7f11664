import ForeignBindings.Path
import ForeignBindings.Proofs.Text.Lines
import Mathlib.Data.List.Infix

/-!
# Parts of paths

A path is read piece by piece. What stands behind a separator is read in the same way whatever
stands in front of it (`Path.parts_append`), and names with separators between them are the names of
the path that they make (`Path.namesOf_parts_intercalate`). A path whose last piece is a name does
not lead to what has a longer name: `Path.not_isPrefix_parts`.
-/

namespace ForeignBindings.Path

/-- A text that names what lies in a directory. -/
structure IsName (text : String) : Prop where
  notEmpty : text ≠ ""
  notCurrent : text ≠ "."
  notParent : text ≠ ".."
  inner : '/' ∉ text.toList

/-- No name is a part of two dots. -/
theorem IsName.not_isPrefix_dots {name : String} (isName : IsName name) :
    ¬ name.toList <+: ['.', '.'] := by
  intro isPrefix
  have isInit : name.toList ∈ ['.', '.'].inits := (List.mem_inits _ _).mpr isPrefix
  have among : name.toList = [] ∨ name.toList = ['.'] ∨ name.toList = ['.', '.'] := by
    simpa using isInit
  rcases among with same | same | same
  · exact isName.notEmpty (String.toList_inj.mp same)
  · exact isName.notCurrent (String.toList_inj.mp same)
  · exact isName.notParent (String.toList_inj.mp same)

/-- A name stays one when it is made longer. -/
theorem IsName.append {name more : String} (isName : IsName name) (inner : '/' ∉ more.toList) :
    IsName (name ++ more) := by
  have isNot {text : String} (dots : text.toList <+: ['.', '.']) : name ++ more ≠ text := by
    rintro rfl
    rw [String.toList_append] at dots
    exact isName.not_isPrefix_dots ((List.prefix_append _ _).trans dots)
  have innerBoth : '/' ∉ (name ++ more).toList := by
    rw [String.toList_append, List.mem_append, not_or]
    exact ⟨isName.inner, inner⟩
  exact ⟨isNot (by decide), isNot (by decide), isNot (by decide), innerBoth⟩

/-- The texts between separators are the pieces at `/`. -/
theorem splitCharacters_eq_splitOn (text : List Char) :
    splitCharacters text = text.splitOn '/' := by
  induction text with
  | nil => rfl
  | cons character rest inductionHypothesis =>
    obtain ⟨first, others, split⟩ := List.exists_cons_of_ne_nil (List.splitOn_ne_nil '/' rest)
    rw [List.splitOn_cons_eq_if_modifyHead, split]
    unfold splitCharacters
    rw [inductionHypothesis, split]
    simp

/-- The pieces of a path are its pieces at `/`. -/
theorem pieces_eq_map_splitOn (path : String) :
    pieces path = (path.toList.splitOn '/').map String.ofList := by
  rw [pieces, splitCharacters_eq_splitOn]

/-- No separator is left in a piece. -/
theorem inner_of_mem_pieces {path piece : String} (member : piece ∈ pieces path) :
    '/' ∉ piece.toList := by
  rw [pieces_eq_map_splitOn] at member
  obtain ⟨characters, isPiece, rfl⟩ := List.mem_map.mp member
  rw [String.toList_ofList]
  exact Text.not_mem_of_mem_splitOn isPiece

/-- A path without separators is one piece. -/
theorem pieces_eq_singleton {path : String} (inner : '/' ∉ path.toList) : pieces path = [path] := by
  rw [pieces_eq_map_splitOn, List.splitOn_eq_singleton inner, List.map_singleton,
    String.ofList_toList]

/-- A separator divides the pieces. -/
theorem pieces_append (front behind : String) :
    pieces (front ++ "/" ++ behind) = pieces front ++ pieces behind := by
  have characters : (front ++ "/" ++ behind).toList = front.toList ++ '/' :: behind.toList := by
    simp [String.toList_append]
  rw [pieces_eq_map_splitOn, characters, List.splitOn_append_cons_self, List.map_append,
    ← pieces_eq_map_splitOn, ← pieces_eq_map_splitOn]

/-- Names with separators between them are the pieces. -/
theorem pieces_intercalate {names : List String} (inner : ∀ name ∈ names, '/' ∉ name.toList)
    (notEmpty : names ≠ []) : pieces ("/".intercalate names) = names := by
  have innerCharacters : ∀ characters ∈ names.map String.toList, '/' ∉ characters :=
    List.forall_mem_map.mpr inner
  have separator : "/".toList = ['/'] := rfl
  rw [pieces_eq_map_splitOn, String.toList_intercalate, separator,
    List.splitOn_intercalate '/' innerCharacters (by simpa using notEmpty)]
  simp

/-- A path behind another one is absolute if the other one is. -/
theorem isAbsolute_append {front : String} (notEmpty : front ≠ "") (behind : String) :
    isAbsolute (front ++ behind) = isAbsolute front := by
  have someFirst : front.toList ≠ [] := by simpa using notEmpty
  unfold isAbsolute
  rw [String.toList_append, List.head?_append, List.head?_eq_some_head someFirst, Option.some_or]

/-- The pieces that stand for a name behind another part. -/
theorem ofInner?_eq_some_name_iff {piece name : String} :
    PathPart.ofInner? piece = some (.name name) ↔
      piece = name ∧ piece ≠ "" ∧ piece ≠ "." ∧ piece ≠ ".." := by
  unfold PathPart.ofInner?
  by_cases blank : piece = "" ∨ piece = "."
  · rcases blank with rfl | rfl <;> simp
  · obtain ⟨notEmpty, notCurrent⟩ := not_or.mp blank
    by_cases parent : piece = ".."
    · simp [parent]
    · simp [notEmpty, notCurrent, parent]

/-- A name behind another part is that name. -/
theorem IsName.ofInner?_eq {name : String} (isName : IsName name) :
    PathPart.ofInner? name = some (.name name) :=
  ofInner?_eq_some_name_iff.mpr ⟨rfl, isName.notEmpty, isName.notCurrent, isName.notParent⟩

/-- A name in front is that name. -/
theorem IsName.ofFirst?_eq {name : String} (isName : IsName name) :
    PathPart.ofFirst? name = some (.name name) := by
  unfold PathPart.ofFirst?
  rw [if_neg isName.notCurrent, isName.ofInner?_eq]

/-- The parts of a path that stands behind a separator. -/
def innerParts (path : String) : List PathPart := (pieces path).filterMap PathPart.ofInner?

theorem exists_pieces_eq_cons (path : String) : ∃ first rest, pieces path = first :: rest := by
  refine List.exists_cons_of_ne_nil ?_
  rw [pieces_eq_map_splitOn, Ne, List.map_eq_nil_iff]
  exact List.splitOn_ne_nil '/' path.toList

/-- The first piece of a path stands for a part by a rule of its own. -/
theorem parts_eq {path first : String} {rest : List String} (split : pieces path = first :: rest) :
    parts path =
      (if isAbsolute path then some .root else PathPart.ofFirst? first).toList ++
        rest.filterMap PathPart.ofInner? := by
  rw [parts, split]

/-- What stands behind a separator is read in the same way whatever stands in front. -/
theorem parts_append {front : String} (notEmpty : front ≠ "") (behind : String) :
    parts (front ++ "/" ++ behind) = parts front ++ innerParts behind := by
  obtain ⟨first, rest, split⟩ := exists_pieces_eq_cons front
  have splitBoth : pieces (front ++ "/" ++ behind) = first :: (rest ++ pieces behind) := by
    rw [pieces_append, split, List.cons_append]
  have absolute : isAbsolute (front ++ "/" ++ behind) = isAbsolute front := by
    rw [String.append_assoc, isAbsolute_append notEmpty]
  rw [parts_eq split, parts_eq splitBoth, absolute, List.filterMap_append, List.append_assoc]
  rfl

/-- The names among parts. -/
def namesOf (parts : List PathPart) : List String := parts.filterMap PathPart.name?

theorem mem_namesOf_iff {parts : List PathPart} {name : String} :
    name ∈ namesOf parts ↔ .name name ∈ parts := by
  have isName (part : PathPart) : part.name? = some name ↔ part = .name name := by
    cases part <;> simp [PathPart.name?]
  simp [namesOf, List.mem_filterMap, isName]

/-- Nothing stands in front of the first separator if there is nothing at all or the path is
absolute. -/
theorem first_eq_empty_iff {path first : String} {rest : List String}
    (split : pieces path = first :: rest) : first = "" ↔ path = "" ∨ isAbsolute path = true := by
  rw [pieces_eq_map_splitOn] at split
  unfold isAbsolute
  cases characters : path.toList with
  | nil =>
    rw [characters] at split
    have isFirst : first = "" := (List.cons.inj split).1.symm
    simp [isFirst, String.toList_eq_nil_iff.mp characters]
  | cons character behind =>
    have notEmpty : path ≠ "" := fun empty => by simp [empty] at characters
    rw [characters, List.splitOn_cons_eq_if_modifyHead] at split
    by_cases separator : character = '/'
    · have isFirst : "" = first := by
        rw [separator] at split
        exact (List.cons.inj split).1
      simp [← isFirst, separator]
    · obtain ⟨piece, others, cut⟩ :=
        List.exists_cons_of_ne_nil (List.splitOn_ne_nil '/' behind)
      have isFirst : String.ofList (character :: piece) = first := by
        rw [if_neg (by simpa using separator), cut] at split
        exact (List.cons.inj split).1
      simp [← isFirst, separator, notEmpty]

/-- The first piece of a path stands for no other name than behind a part. -/
theorem namesOf_parts (path : String) : namesOf (parts path) = namesOf (innerParts path) := by
  obtain ⟨first, rest, split⟩ := exists_pieces_eq_cons path
  have start : namesOf (if isAbsolute path then some .root else PathPart.ofFirst? first).toList =
      namesOf (PathPart.ofInner? first).toList := by
    cases absolute : isAbsolute path with
    | true =>
      rw [(first_eq_empty_iff split).mpr (.inr absolute)]
      rfl
    | false =>
      by_cases current : first = "."
      · subst current
        rfl
      · simp [PathPart.ofFirst?, current]
  have inner : innerParts path =
      (PathPart.ofInner? first).toList ++ rest.filterMap PathPart.ofInner? := by
    rw [innerParts, split, List.filterMap_cons]
    cases PathPart.ofInner? first <;> rfl
  rw [parts_eq split, inner, namesOf, List.filterMap_append, namesOf, List.filterMap_append]
  exact congrArg (· ++ _) start

/-- What a path names can be a name. -/
theorem isName_of_mem_namesOf_parts {path name : String} (member : name ∈ namesOf (parts path)) :
    IsName name := by
  rw [namesOf_parts, mem_namesOf_iff] at member
  obtain ⟨piece, isPiece, isPart⟩ := List.mem_filterMap.mp member
  obtain ⟨rfl, notEmpty, notCurrent, notParent⟩ := ofInner?_eq_some_name_iff.mp isPart
  exact ⟨notEmpty, notCurrent, notParent, inner_of_mem_pieces isPiece⟩

/-- Names are read as themselves behind a part. -/
theorem filterMap_ofInner? {names : List String} (areNames : ∀ name ∈ names, IsName name) :
    names.filterMap PathPart.ofInner? = names.map PathPart.name := by
  induction names with
  | nil => rfl
  | cons name rest inductionHypothesis =>
    obtain ⟨isName, areOthers⟩ := List.forall_mem_cons.mp areNames
    rw [List.filterMap_cons_some isName.ofInner?_eq, inductionHypothesis areOthers, List.map_cons]

/-- Names with separators between them are what the path names. -/
theorem namesOf_parts_intercalate {names : List String} (areNames : ∀ name ∈ names, IsName name) :
    namesOf (parts ("/".intercalate names)) = names := by
  by_cases empty : names = []
  · subst empty
    rfl
  · have inner : ∀ name ∈ names, '/' ∉ name.toList := fun name member =>
      (areNames name member).inner
    rw [namesOf_parts, innerParts, pieces_intercalate inner empty, filterMap_ofInner? areNames,
      namesOf, List.filterMap_map]
    exact List.filterMap_some

/-- The parts of a path in front of a piece behind the given ones. -/
def leadingParts (absolute : Bool) : List String → List PathPart
  | [] => []
  | first :: others =>
    (if absolute then some .root else PathPart.ofFirst? first).toList ++
      others.filterMap PathPart.ofInner?

/-- A piece that is a name is read as that name. -/
theorem parts_of_name {path name : String} {front rest : List String}
    (split : pieces path = front ++ name :: rest) (isName : IsName name) :
    parts path =
      leadingParts (isAbsolute path) front ++ .name name :: rest.filterMap PathPart.ofInner? := by
  cases front with
  | nil =>
    have relative : isAbsolute path = false := by
      have notEither := mt (first_eq_empty_iff split).mpr isName.notEmpty
      simpa using (not_or.mp notEither).2
    rw [parts_eq split, relative, if_neg Bool.false_ne_true, isName.ofFirst?_eq]
    rfl
  | cons first others =>
    rw [List.cons_append] at split
    rw [parts_eq split, List.filterMap_append, List.filterMap_cons_some isName.ofInner?_eq,
      ← List.append_assoc]
    rfl

/-- What stands behind a path goes on in its last piece. -/
theorem exists_pieces_append {path last : String} {front : List String}
    (split : pieces path = front ++ [last]) (more : String) :
    ∃ piece rest, pieces more = piece :: rest ∧
      pieces (path ++ more) = front ++ (last ++ piece) :: rest := by
  have isPiece : last ∈ pieces path := by simp [split]
  have characters : path.toList.splitOn '/' = front.map String.toList ++ [last.toList] := by
    rw [pieces_eq_map_splitOn] at split
    simpa [Function.comp_def] using congrArg (List.map String.toList) split
  obtain ⟨first, rest, splitMore, joined⟩ :=
    Text.exists_splitOn_append (inner_of_mem_pieces isPiece) more.toList
  refine ⟨String.ofList first, rest.map String.ofList, ?_, ?_⟩
  · rw [pieces_eq_map_splitOn, splitMore, List.map_cons]
  · rw [pieces_eq_map_splitOn, String.toList_append, Text.splitOn_append characters, joined]
    simp [Function.comp_def]

/-- A path whose last piece is a name does not lead to what has a longer name. -/
theorem not_isPrefix_parts {path stem more : String} (isLast : (pieces path).getLast? = some stem)
    (isName : IsName stem) (notEmpty : more ≠ "") (goesOn : isAbsolute more = false) :
    ¬ parts path <+: parts (path ++ more) := by
  obtain ⟨front, split⟩ := List.getLast?_eq_some_iff.mp isLast
  obtain ⟨piece, rest, splitMore, splitBoth⟩ := exists_pieces_append split more
  have someMore : piece ≠ "" := by
    rw [Ne, first_eq_empty_iff splitMore]
    simp [notEmpty, goesOn]
  have isLonger : IsName (stem ++ piece) :=
    isName.append (inner_of_mem_pieces (splitMore ▸ List.mem_cons_self))
  have somePath : path ≠ "" := by
    rintro rfl
    exact isName.notEmpty (Option.some.inj isLast).symm
  rw [parts_of_name split isName, parts_of_name splitBoth isLonger, isAbsolute_append somePath,
    List.prefix_append_right_inj, List.cons_prefix_cons]
  rintro ⟨same, -⟩
  have nothing : stem = stem ++ piece := PathPart.name.inj same
  exact someMore (String.append_eq_left_iff.mp nothing.symm)

end ForeignBindings.Path
