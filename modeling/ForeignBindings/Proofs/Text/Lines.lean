import Mathlib.Data.List.Basic

/-!
# Lines and other pieces of texts

Texts are put together from lines that are ended one by one (`unlines`), and they are cut into
pieces at a separator by `List.splitOn`. Cutting at line breaks finds the lines again:
`splitOn_unlines`.
-/

namespace ForeignBindings

/-- The text of lines, each of which is ended. -/
def unlines (lines : List String) : String := String.join (lines.map fun line => line ++ "\n")

theorem unlines_append (first second : List String) :
    unlines (first ++ second) = unlines first ++ unlines second := by
  simp [unlines, String.join_append]

/-- The text of lines that stand in parts is that of the parts. -/
theorem unlines_flatMap {α : Type} (linesOf : α → List String) (parts : List α) :
    unlines (parts.flatMap linesOf) =
      String.join (parts.map fun part => unlines (linesOf part)) := by
  induction parts with
  | nil => rfl
  | cons part rest inductionHypothesis =>
    rw [List.flatMap_cons, unlines_append, inductionHypothesis, List.map_cons, String.join_cons]

/-- Behind the first of some lists, a separator stands in front of each. -/
theorem intercalate_cons {α : Type} (separator first : List α) (rest : List (List α)) :
    separator.intercalate (first :: rest) = first ++ rest.flatMap (separator ++ ·) := by
  induction rest generalizing first with
  | nil => simp
  | cons next others inductionHypothesis =>
    rw [List.intercalate_cons_cons, inductionHypothesis, List.flatMap_cons, List.append_assoc,
      List.append_assoc]

/-- What holds for separators and for what they separate holds for all that is put together. -/
theorem forall_mem_intercalate {α : Type} {p : α → Prop} {separator : List α}
    {lists : List (List α)} (ofSeparator : ∀ a ∈ separator, p a)
    (ofLists : ∀ list ∈ lists, ∀ a ∈ list, p a) : ∀ a ∈ separator.intercalate lists, p a := by
  cases lists with
  | nil => exact nofun
  | cons first rest =>
    obtain ⟨ofFirst, ofRest⟩ := List.forall_mem_cons.mp ofLists
    rw [intercalate_cons]
    intro a member
    rcases List.mem_append.mp member with inFirst | inRest
    · exact ofFirst a inFirst
    · obtain ⟨list, isList, inList⟩ := List.mem_flatMap.mp inRest
      rcases List.mem_append.mp inList with isSeparator | isElement
      · exact ofSeparator a isSeparator
      · exact ofRest list isList a isElement

/-- Lines without line breaks are found again between those that end them. Behind the last one
nothing is left. -/
theorem splitOn_unlines {lines : List String} (unbroken : ∀ line ∈ lines, '\n' ∉ line.toList) :
    (unlines lines).toList.splitOn '\n' = lines.map String.toList ++ [[]] := by
  induction lines with
  | nil => rfl
  | cons line rest inductionHypothesis =>
    obtain ⟨first, others⟩ := List.forall_mem_cons.mp unbroken
    have characters : (unlines (line :: rest)).toList =
        line.toList ++ '\n' :: (unlines rest).toList := by
      simp [unlines, String.join_cons, String.toList_append]
    rw [characters, List.splitOn_append_cons_self_of_not_mem first, inductionHypothesis others]
    rfl

namespace Text

variable {separator : Char} {text : List Char}

/-- A piece has no separator in it. -/
theorem not_mem_of_mem_splitOn {piece : List Char} (member : piece ∈ text.splitOn separator) :
    separator ∉ piece := by
  induction text generalizing piece with
  | nil =>
    rw [List.splitOn_nil, List.mem_singleton] at member
    exact member ▸ List.not_mem_nil
  | cons character rest inductionHypothesis =>
    rw [List.splitOn_cons_eq_if_modifyHead] at member
    split at member
    case isTrue =>
      rcases List.mem_cons.mp member with rfl | isLater
      · exact List.not_mem_nil
      · exact inductionHypothesis isLater
    case isFalse other =>
      obtain ⟨first, others, split⟩ :=
        List.exists_cons_of_ne_nil (List.splitOn_ne_nil separator rest)
      rw [split, List.modifyHead_cons] at member
      rcases List.mem_cons.mp member with rfl | isLater
      · have isOther : separator ≠ character := fun same => other (beq_iff_eq.mpr same.symm)
        have notLater : separator ∉ first := inductionHypothesis (split ▸ List.mem_cons_self)
        exact List.not_mem_cons_of_ne_of_not_mem isOther notLater
      · exact inductionHypothesis (split ▸ List.mem_cons_of_mem first isLater)

/-- Where no piece is empty, no separator stands at an end or beside another. -/
theorem separates_of_no_empty_piece (noEmpty : [] ∉ text.splitOn separator) :
    text.head? ≠ some separator ∧ text.getLast? ≠ some separator ∧
      ¬ [separator, separator] <:+: text := by
  have noCut : ∀ before after : List Char, text = before ++ separator :: after →
      [] ∉ before.splitOn separator ∧ [] ∉ after.splitOn separator := by
    rintro before after rfl
    rwa [List.splitOn_append_cons_self, List.mem_append, not_or] at noEmpty
  have emptyPiece : [] ∈ ([] : List Char).splitOn separator := List.mem_singleton_self []
  -- A separator in one of these places cuts off an empty piece.
  refine ⟨fun isHead => ?_, fun isLast => ?_, ?_⟩
  · obtain ⟨rest, same⟩ := List.head?_eq_some_iff.mp isHead
    exact (noCut [] rest same).1 emptyPiece
  · obtain ⟨front, same⟩ := List.getLast?_eq_some_iff.mp isLast
    exact (noCut front [] same).2 emptyPiece
  · rintro ⟨before, after, same⟩
    have behindFirst := (noCut before (separator :: after) (by simp [← same])).2
    rw [← List.nil_append (separator :: after), List.splitOn_append_cons_self, List.mem_append,
      not_or] at behindFirst
    exact behindFirst.1 emptyPiece

/-- A text without separators in front of another one stands in front of its first piece. -/
theorem exists_splitOn_append {stem : List Char} (inner : separator ∉ stem) (text : List Char) :
    ∃ first rest, text.splitOn separator = first :: rest ∧
      (stem ++ text).splitOn separator = (stem ++ first) :: rest := by
  obtain ⟨first, rest, split⟩ := List.exists_cons_of_ne_nil (List.splitOn_ne_nil separator text)
  refine ⟨first, rest, split, ?_⟩
  induction stem with
  | nil => exact split
  | cons character others inductionHypothesis =>
    have isOther : character ≠ separator := fun same => inner (same ▸ List.mem_cons_self)
    have innerOthers : separator ∉ others := fun member => inner (List.mem_cons_of_mem _ member)
    rw [List.cons_append, List.splitOn_cons_eq_if_modifyHead, inductionHypothesis innerOthers]
    simp [isOther]

/-- What stands behind a text goes on in its last piece. -/
theorem splitOn_append {front : List (List Char)} {last more : List Char}
    (split : text.splitOn separator = front ++ [last]) :
    (text ++ more).splitOn separator = front ++ (last ++ more).splitOn separator := by
  have inner : ∀ piece ∈ front, separator ∉ piece := fun piece member =>
    not_mem_of_mem_splitOn (split ▸ List.mem_append_left [last] member)
  have joined : text = [separator].intercalate (front ++ [last]) := by
    rw [← split, List.intercalate_splitOn]
  rw [joined]
  clear joined split
  induction front with
  | nil => simp
  | cons piece others inductionHypothesis =>
    obtain ⟨innerFirst, innerOthers⟩ := List.forall_mem_cons.mp inner
    have notEmpty : others ++ [last] ≠ [] := by simp
    rw [List.cons_append, List.intercalate_cons_of_ne_nil notEmpty, List.append_assoc,
      List.append_assoc, List.singleton_append,
      List.splitOn_append_cons_self_of_not_mem innerFirst, inductionHypothesis innerOthers,
      List.cons_append]

end Text

end ForeignBindings
