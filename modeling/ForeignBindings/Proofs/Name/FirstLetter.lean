import ForeignBindings.Name.Case
import Mathlib

/-!
# The first letter of a converted name

A case conversion keeps the first letter or digit of a name in front and changes at most its
case. Only a letter has a case to change, so `NameCase.convert?_acceptsInitial_iff` makes the
legality of the initial a matter of that one character.
-/

namespace ForeignBindings

namespace Word

/-- An underscore has no case. -/
theorem toLower_eq_underscore_iff (character : Char) : character.toLower = '_' ↔ character = '_' := by
  refine ⟨fun underscore => ?_, fun underscore => by rw [underscore]; rfl⟩
  have noLetter : character.isAlpha = false := by
    rw [← character.isAlpha_toLower_eq_isAlpha, underscore]
    rfl
  have notUpper : ¬ character.isUpper = true := by
    intro upper
    simp [Char.isAlpha, upper] at noLetter
  rwa [Char.toLower_eq_of_not_isUpper notUpper] at underscore

theorem runs_cons_of_alphanum {first : Char} (alphanum : first.isAlphanum = true)
    (rest : List Char) : ∃ run others, runs (first :: rest) = (first :: run) :: others := by
  unfold runs pieces
  rw [if_pos alphanum]
  cases pieces rest with
  | nil => exact ⟨[], [], by simp⟩
  | cons piece others => exact ⟨piece, others.filter fun piece => !piece.isEmpty, by simp⟩

theorem runs_cons_of_separator {separator : Char} (separates : ¬ separator.isAlphanum = true)
    (rest : List Char) : runs (separator :: rest) = runs rest := by
  simp [runs, pieces, separates]

/-- Cutting a run leaves its first character in front. -/
theorem cut_cons (first : Char) (rest : List Char) :
    ∃ word others, cut (first :: rest) = (first :: word) :: others := by
  cases rest with
  | nil => exact ⟨[], [], rfl⟩
  | cons next rest =>
    unfold cut
    split
    · exact ⟨[], _, rfl⟩
    · cases cut (next :: rest) with
      | nil => exact ⟨[], [], rfl⟩
      | cons word others => exact ⟨word, others, rfl⟩

theorem ofRun_cons (first : Char) (rest : List Char) :
    ∃ word others, ofRun (first :: rest) = (first :: word) :: others := by
  unfold ofRun
  split
  · exact cut_cons first rest
  · exact ⟨rest, [], rfl⟩

/-- The first word starts with the first letter or digit; without one there are no words. -/
theorem segment_first (name : List Char) :
    (name.find? Char.isAlphanum = none ∧ segment name = []) ∨
      ∃ first word others, name.find? Char.isAlphanum = some first ∧
        segment name = (first :: word) :: others := by
  induction name with
  | nil => exact .inl ⟨rfl, rfl⟩
  | cons character rest inductionHypothesis =>
    by_cases alphanum : character.isAlphanum = true
    · obtain ⟨run, runsAfter, runsEq⟩ := runs_cons_of_alphanum alphanum rest
      obtain ⟨word, wordsAfter, wordsEq⟩ := ofRun_cons character run
      refine .inr ⟨character, word, wordsAfter ++ runsAfter.flatMap ofRun, ?_, ?_⟩
      · exact List.find?_cons_of_pos alphanum
      · simp [segment, runsEq, wordsEq]
    · rw [List.find?_cons_of_neg alphanum]
      simpa only [segment, runs_cons_of_separator alphanum] using inductionHypothesis

/-- An identifier without letters and digits has no words. -/
theorem segment_eq_nil_iff (name : List Char) :
    segment name = [] ↔ ∀ character ∈ name, character.isAlphanum = false := by
  obtain ⟨notFound, noWords⟩ | ⟨first, word, others, found, words⟩ := segment_first name
  · simpa [noWords] using notFound
  · refine iff_of_false (by simp [words]) fun noAlphanum => ?_
    have separates := noAlphanum first (List.mem_of_find?_eq_some found)
    rw [List.find?_some found] at separates
    cases separates

end Word

namespace NameVariant

/-- Whether the initial is legal depends on the first character only. -/
theorem acceptsInitial_iff_head (variant : NameVariant) (name : String) :
    variant.acceptsInitial name = true ↔
      ∃ first ∈ name.toList.head?, variant.acceptsFirst first = true := by
  unfold acceptsInitial
  cases name.toList <;> simp

/-- A text that starts legally does so with any text after it. -/
theorem acceptsInitial_append {variant : NameVariant} {name : String}
    (starts : variant.acceptsInitial name = true) (ending : String) :
    variant.acceptsInitial (name ++ ending) = true := by
  obtain ⟨first, atHead, accepted⟩ := (variant.acceptsInitial_iff_head name).mp starts
  refine (variant.acceptsInitial_iff_head _).mpr ⟨first, ?_, accepted⟩
  rw [String.toList_append, List.head?_append_of_ne_nil]
  · exact atHead
  · rintro empty
    simp [empty] at atHead

/-- Forcing the case of a letter makes it legal, forcing that of a digit does not. -/
theorem acceptsFirst_apply {variant : NameVariant} {letterCase : LetterCase}
    (forced : variant.initial? = some letterCase) {first : Char}
    (alphanum : first.isAlphanum = true) :
    variant.acceptsFirst (letterCase.apply first) = first.isAlpha := by
  unfold acceptsFirst
  rw [forced]
  cases letterCase with
  | upper => exact first.isUpper_toUpper_eq_isAlpha
  | lower =>
    have notUnderscore : first.toLower ≠ '_' := by
      rw [Ne, Word.toLower_eq_underscore_iff]
      rintro rfl
      exact absurd alphanum (by decide)
    simp [LetterCase.apply, notUnderscore]

end NameVariant

namespace NameCase

/-- Spelling changes at most the case of the first character. -/
theorem spell_cons (nameCase : NameCase) (first : Char) (word : List Char) :
    ∃ initial spelled, nameCase.spell (first :: word) = initial :: spelled ∧
      ∀ letterCase : LetterCase, letterCase.apply initial = letterCase.apply first := by
  have applyUpper (letterCase : LetterCase) :
      letterCase.apply first.toUpper = letterCase.apply first := by
    cases letterCase <;> simp [LetterCase.apply]
  have applyLower (letterCase : LetterCase) :
      letterCase.apply first.toLower = letterCase.apply first := by
    cases letterCase <;> simp [LetterCase.apply]
  cases nameCase with
  | preserving => exact ⟨first, word, rfl, fun _ => rfl⟩
  | camel | snakeInitialUpper => exact ⟨first.toUpper, word.map Char.toLower, rfl, applyUpper⟩
  | snakeAllLower => exact ⟨first.toLower, word.map Char.toLower, rfl, applyLower⟩
  | snakeAllUpper => exact ⟨first.toUpper, word.map Char.toUpper, rfl, applyUpper⟩

@[simp] theorem join_singleton (nameCase : NameCase) (word : List Char) :
    nameCase.join [word] = nameCase.spell word :=
  List.intercalate_singleton

@[simp] theorem join_cons_cons (nameCase : NameCase) (word next : List Char)
    (others : List (List Char)) :
    nameCase.join (word :: next :: others) =
      nameCase.spell word ++ (nameCase.separator ++ nameCase.join (next :: others)) := by
  simp [join, List.intercalate_cons_cons]

/-- Joining leaves the spelling of the first word in front. -/
theorem join_cons (nameCase : NameCase) (word : List Char) (others : List (List Char)) :
    ∃ rest, nameCase.join (word :: others) = nameCase.spell word ++ rest := by
  cases others with
  | nil => exact ⟨[], by simp⟩
  | cons next others => exact ⟨_, nameCase.join_cons_cons word next others⟩

/-- A name without words cannot be converted. -/
theorem convert?_of_no_words {nameCase : NameCase} {variant : NameVariant} {name : String}
    (recases : nameCase ≠ .preserving) (noWords : Word.segment name.toList = []) :
    nameCase.convert? variant name = none := by
  cases nameCase with
  | preserving => exact absurd rfl recases
  | _ => simp [convert?, noWords]

/-- The words of a name are joined, and the first letter is forced. -/
theorem convert?_of_words {nameCase : NameCase} {variant : NameVariant} {name : String}
    {word : List Char} {others : List (List Char)} (recases : nameCase ≠ .preserving)
    (words : Word.segment name.toList = word :: others) :
    nameCase.convert? variant name =
      some (String.ofList (variant.forceInitial (nameCase.join (word :: others)))) := by
  cases nameCase with
  | preserving => exact absurd rfl recases
  | _ => simp [convert?, words]

/-- Only an identifier without words cannot be converted. -/
theorem convert?_eq_none_iff {nameCase : NameCase} (recases : nameCase ≠ .preserving)
    {variant : NameVariant} {name : String} :
    nameCase.convert? variant name = none ↔ Word.segment name.toList = [] := by
  refine ⟨fun conversion => ?_, convert?_of_no_words recases⟩
  cases words : Word.segment name.toList with
  | nil => rfl
  | cons word others =>
    rw [convert?_of_words recases words] at conversion
    cases conversion

/-- A converted name starts with the first letter or digit of the name, in the case that the
variant asks for. -/
theorem convert?_first {nameCase : NameCase} {variant : NameVariant} {letterCase : LetterCase}
    {name converted : String} (recases : nameCase ≠ .preserving)
    (forced : variant.initial? = some letterCase)
    (conversion : nameCase.convert? variant name = some converted) :
    ∃ first, name.toList.find? Char.isAlphanum = some first ∧
      converted.toList.head? = some (letterCase.apply first) := by
  obtain ⟨-, noWords⟩ | ⟨first, word, others, found, words⟩ := Word.segment_first name.toList
  · rw [convert?_of_no_words recases noWords] at conversion
    cases conversion
  · obtain ⟨initial, spelled, spelling, sameLetter⟩ := nameCase.spell_cons first word
    obtain ⟨rest, joined⟩ := nameCase.join_cons (first :: word) others
    refine ⟨first, found, ?_⟩
    rw [convert?_of_words recases words, joined, spelling, Option.some.injEq] at conversion
    simp only [List.cons_append, NameVariant.forceInitial, forced] at conversion
    rw [← conversion, String.toList_ofList, List.head?_cons, sameLetter letterCase]

/-- A case conversion gives a legal initial exactly when the first letter or digit of the name
is a letter. -/
theorem convert?_acceptsInitial_iff {nameCase : NameCase} {variant : NameVariant}
    {letterCase : LetterCase} {name converted : String} (recases : nameCase ≠ .preserving)
    (forced : variant.initial? = some letterCase)
    (conversion : nameCase.convert? variant name = some converted) :
    variant.acceptsInitial converted = true ↔
      ∃ first ∈ name.toList.find? Char.isAlphanum, first.isAlpha = true := by
  obtain ⟨first, found, atHead⟩ := convert?_first recases forced conversion
  rw [variant.acceptsInitial_iff_head, atHead, found]
  have alphanum : first.isAlphanum = true := List.find?_some found
  simp [NameVariant.acceptsFirst_apply forced alphanum]

end NameCase

end ForeignBindings
