import ForeignBindings.Proofs.Name.Respelling
import ForeignBindings.Proofs.Text.Lines

/-!
# Spelled identifiers

What a conversion other than the preserving one makes of an identifier, character by character. An
identifier with a letter or a digit can be converted, and no letter or digit is lost, added or
moved. Underscores stand between the words in snake case and nowhere else. The case of a letter is
the one that `NameCase.dictated?` gives for its place in its word, except in front, where the
variant has the last say: `NameCase.convert?_spells`.
-/

namespace ForeignBindings

namespace LetterCase

/-- A letter is written in the case. -/
def IsCaseOf : LetterCase → Char → Prop
  | upper, letter => letter.isUpper = true
  | lower, letter => letter.isLower = true

theorem isAlpha_apply (letterCase : LetterCase) (letter : Char) :
    (letterCase.apply letter).isAlpha = letter.isAlpha := by
  cases letterCase with
  | upper => exact letter.isAlpha_toUpper_eq_isAlpha
  | lower => exact letter.isAlpha_toLower_eq_isAlpha

/-- Writing a letter in a case puts it in that case. -/
theorem isCaseOf_apply (letterCase : LetterCase) {letter : Char}
    (isLetter : (letterCase.apply letter).isAlpha = true) :
    letterCase.IsCaseOf (letterCase.apply letter) := by
  rw [isAlpha_apply] at isLetter
  cases letterCase with
  | upper => exact letter.isUpper_toUpper_eq_isAlpha.trans isLetter
  | lower => exact letter.isLower_toLower_eq_isAlpha.trans isLetter

/-- Writing a letter in a case leaves it the same letter. -/
theorem toLower_apply (letterCase : LetterCase) (letter : Char) :
    (letterCase.apply letter).toLower = letter.toLower := by
  cases letterCase <;> simp [apply]

end LetterCase

namespace Word

/-- The length of a text in which a gap follows each of some words. -/
def lengthWithGaps (gap : Nat) (words : List (List Char)) : Nat :=
  (words.map fun word => word.length + gap).sum

theorem underscore_mem_iff (text : List Char) : '_' ∈ text ↔ '_' ∈ text.map Char.toLower := by
  simp [toLower_eq_underscore_iff]

/-- Underscores can be left out before letters are written in lower case, or after. -/
theorem map_toLower_filter (text : List Char) :
    (text.filter (· != '_')).map Char.toLower = (text.map Char.toLower).filter (· != '_') := by
  rw [List.filter_map]
  congr 2
  funext character
  rw [Function.comp_apply, Bool.eq_iff_iff, bne_iff_ne, bne_iff_ne, Ne, Ne,
    toLower_eq_underscore_iff]

/-- A text has one underscore less than there are pieces between underscores. -/
theorem count_underscore (text : List Char) :
    text.count '_' + 1 = (text.splitOn '_').length := by
  unfold List.splitOn
  induction text with
  | nil => rfl
  | cons character rest inductionHypothesis =>
    rw [List.splitOnP_cons_eq_if_modifyHead, List.count_cons]
    split <;> simp [inductionHypothesis]

end Word

namespace NameVariant

/-- Forcing the initial leaves a character in front, in the case that is asked for. -/
theorem head?_forceInitial (variant : NameVariant) (text : List Char) :
    (variant.forceInitial text).head? =
      text.head?.map fun first => variant.initial?.elim first fun letterCase =>
        letterCase.apply first := by
  cases text with
  | nil => rfl
  | cons first rest =>
    unfold forceInitial
    cases variant.initial? <;> rfl

/-- Forcing the initial leaves what is behind it. -/
theorem getElem?_forceInitial {variant : NameVariant} {text : List Char} {position : Nat}
    (behind : 0 < position) : (variant.forceInitial text)[position]? = text[position]? := by
  cases text with
  | nil => rfl
  | cons first rest =>
    obtain ⟨forced, -, isForced⟩ := variant.exists_forceInitial_cons first
    obtain ⟨before, rfl⟩ := Nat.exists_eq_add_one.mpr behind
    rw [isForced, List.getElem?_cons_succ, List.getElem?_cons_succ]

end NameVariant

namespace NameCase

/-- The case that a letter gets at a place in its word. The preserving case gives none. -/
def dictated? : NameCase → Nat → Option LetterCase
  | preserving, _ => none
  | camel, index | snakeInitialUpper, index => some (if index = 0 then .upper else .lower)
  | snakeAllLower, _ => some .lower
  | snakeAllUpper, _ => some .upper

/-- A text spells the words of an identifier. -/
structure Spells (nameCase : NameCase) (variant : NameVariant) (name text : List Char) : Prop where
  /-- The letters and digits are those of the identifier, in order. -/
  sameLetters : (text.filter (· != '_')).map Char.toLower =
    (name.filter Char.isAlphanum).map Char.toLower
  /-- Camel case has no underscores. -/
  unseparated : nameCase = .camel → '_' ∉ text
  /-- In snake case there is one less than there are words, each of them within the text and none
  beside another. -/
  separated : nameCase.isSnake = true →
    text.count '_' + 1 = (Word.segment name).length ∧ text.head? ≠ some '_' ∧
      text.getLast? ≠ some '_' ∧ ¬ ['_', '_'] <:+: text
  /-- Behind the first character each letter is one of a word, in the case for its place there. -/
  dictated : ∀ (position : Nat) (letter : Char), 0 < position → text[position]? = some letter →
    letter.isAlpha = true →
      ∃ before word after index, Word.segment name = before ++ word :: after ∧
        position = Word.lengthWithGaps nameCase.separator.length before + index ∧
        (∃ source ∈ word[index]?, letter.toLower = source.toLower) ∧
        ∃ letterCase ∈ nameCase.dictated? index, letterCase.IsCaseOf letter
  /-- A letter in front has the case of the variant or else that of the first place in a word. -/
  initial : ∀ first ∈ text.head?, first.isAlpha = true →
    ∃ letterCase ∈ variant.initial?.or (nameCase.dictated? 0), letterCase.IsCaseOf first

/-- Spelling a word writes each letter in the case for its place. -/
theorem exists_dictated {nameCase : NameCase} (recases : nameCase ≠ .preserving) (index : Nat) :
    ∃ letterCase, nameCase.dictated? index = some letterCase ∧
      ∀ word : List Char, (nameCase.spell word)[index]? = word[index]?.map letterCase.apply := by
  have capitalized : ∀ word : List Char, (capitalize word)[index]? =
      word[index]?.map (if index = 0 then LetterCase.upper else LetterCase.lower).apply := by
    intro word
    cases word with
    | nil => rfl
    | cons first rest =>
      cases index with
      | zero => rfl
      | succ index => exact List.getElem?_map
  cases nameCase with
  | preserving => exact absurd rfl recases
  | camel | snakeInitialUpper => exact ⟨_, rfl, capitalized⟩
  | snakeAllLower => exact ⟨.lower, rfl, fun word => List.getElem?_map⟩
  | snakeAllUpper => exact ⟨.upper, rfl, fun word => List.getElem?_map⟩

theorem length_spell (nameCase : NameCase) (word : List Char) :
    (nameCase.spell word).length = word.length := by
  have sameLength := congrArg List.length (nameCase.map_toLower_spell word)
  rwa [List.length_map, List.length_map] at sameLength

theorem eq_underscore_of_mem_separator {nameCase : NameCase} {character : Char}
    (member : character ∈ nameCase.separator) : character = '_' := by
  cases nameCase with
  | preserving | camel => cases member
  | snakeAllLower | snakeInitialUpper | snakeAllUpper => exact List.mem_singleton.mp member

theorem underscore_not_mem_spell (nameCase : NameCase) (variant : NameVariant)
    {name word : List Char} (isWord : word ∈ Word.segment name) :
    '_' ∉ variant.forceInitial (nameCase.spell word) := fun underscore =>
  absurd (isAlphanum_of_mem_forceInitial_spell nameCase variant isWord '_' underscore) (by decide)

/-- What stands in joined words and does not separate them stands in one of them. -/
theorem exists_place {nameCase : NameCase} {words : List (List Char)} {position : Nat}
    {character : Char} (found : (nameCase.join words)[position]? = some character)
    (noSeparator : character ∉ nameCase.separator) :
    ∃ before word after index, words = before ++ word :: after ∧
      position = Word.lengthWithGaps nameCase.separator.length before + index ∧
      (nameCase.spell word)[index]? = some character := by
  induction words generalizing position with
  | nil => simp [join] at found
  | cons word others inductionHypothesis =>
    have inFirst : (nameCase.spell word)[position]? = some character →
        ∃ before part after index, word :: others = before ++ part :: after ∧
          position = Word.lengthWithGaps nameCase.separator.length before + index ∧
          (nameCase.spell part)[index]? = some character :=
      fun isThere => ⟨[], word, others, position, rfl, by simp [Word.lengthWithGaps], isThere⟩
    cases others with
    | nil =>
      rw [join_singleton] at found
      exact inFirst found
    | cons next others =>
      rw [join_cons_cons, List.getElem?_append] at found
      split at found
      case isTrue => exact inFirst found
      case isFalse behindWord =>
        rw [List.getElem?_append] at found
        split at found
        case isTrue =>
          exact absurd (List.mem_of_getElem? found) noSeparator
        case isFalse behindGap =>
          obtain ⟨before, part, after, index, isWords, isPlace, isThere⟩ :=
            inductionHypothesis found
          refine ⟨word :: before, part, after, index, by rw [isWords, List.cons_append], ?_,
            isThere⟩
          rw [length_spell] at behindWord behindGap isPlace
          simp only [Word.lengthWithGaps, List.map_cons, List.sum_cons] at isPlace ⊢
          omega

/-- A letter of joined words is one of a word, in the case for its place there. -/
theorem exists_place_of_letter {nameCase : NameCase} (recases : nameCase ≠ .preserving)
    {words : List (List Char)} {position : Nat} {letter : Char}
    (found : (nameCase.join words)[position]? = some letter) (isLetter : letter.isAlpha = true) :
    ∃ before word after index, words = before ++ word :: after ∧
      position = Word.lengthWithGaps nameCase.separator.length before + index ∧
      (∃ source ∈ word[index]?, letter.toLower = source.toLower) ∧
      ∃ letterCase ∈ nameCase.dictated? index, letterCase.IsCaseOf letter := by
  have noSeparator : letter ∉ nameCase.separator := by
    intro member
    rw [eq_underscore_of_mem_separator member] at isLetter
    cases isLetter
  obtain ⟨before, word, after, index, isWords, isPlace, isThere⟩ := exists_place found noSeparator
  obtain ⟨letterCase, isDictated, spelled⟩ := exists_dictated recases index
  rw [spelled, Option.map_eq_some_iff] at isThere
  obtain ⟨source, isSource, rfl⟩ := isThere
  exact ⟨before, word, after, index, isWords, isPlace,
    ⟨source, isSource, letterCase.toLower_apply source⟩,
    letterCase, isDictated, letterCase.isCaseOf_apply isLetter⟩

/-- Without the underscores between them, joined words have the letters of the words. -/
theorem map_toLower_filter_join (nameCase : NameCase) {words : List (List Char)}
    (free : ∀ word ∈ words, '_' ∉ nameCase.spell word) :
    ((nameCase.join words).filter (· != '_')).map Char.toLower =
      words.flatten.map Char.toLower := by
  have kept : ∀ part : List Char, '_' ∉ part → part.filter (· != '_') = part := by
    intro part notMember
    refine List.filter_eq_self.mpr fun character member => bne_iff_ne.mpr ?_
    rintro rfl
    exact notMember member
  have dropped : nameCase.separator.filter (· != '_') = [] := by
    cases nameCase <;> rfl
  induction words with
  | nil => rfl
  | cons word others inductionHypothesis =>
    obtain ⟨freeFirst, freeOthers⟩ := List.forall_mem_cons.mp free
    cases others with
    | nil => rw [join_singleton, kept _ freeFirst, map_toLower_spell, List.flatten_singleton]
    | cons next others =>
      rw [join_cons_cons, List.filter_append, List.filter_append, kept _ freeFirst, dropped,
        List.nil_append, List.map_append, inductionHypothesis freeOthers, map_toLower_spell,
        ← List.map_append, ← List.flatten_cons]

theorem length_spelledWords (nameCase : NameCase) (variant : NameVariant)
    (words : List (List Char)) : (nameCase.spelledWords variant words).length = words.length := by
  cases words <;> simp [spelledWords]

/-- Between underscores, an identifier in snake case has its spelled words. -/
theorem splitOn_convert? {nameCase : NameCase} {variant : NameVariant}
    (snake : nameCase.isSnake = true) {name converted : String}
    (conversion : nameCase.convert? variant name = some converted) :
    converted.toList.splitOn '_' =
      nameCase.spelledWords variant (Word.segment name.toList) := by
  obtain ⟨someWords, isJoined⟩ :=
    (convert?_eq_some_iff (ne_preserving_of_isSnake snake)).mp conversion
  rw [isJoined, forceInitial_join snake]
  refine List.splitOn_intercalate '_' (fun part member => ?_) ?_
  · obtain ⟨word, isWord, initial, -, rfl⟩ := exists_of_mem_spelledWords member
    exact underscore_not_mem_spell nameCase initial isWord
  · obtain ⟨word, others, words⟩ := List.exists_cons_of_ne_nil someWords
    rw [words]
    exact List.cons_ne_nil _ _

/-- What a conversion yields spells the words of the identifier. -/
theorem spells_of_convert? {nameCase : NameCase} (recases : nameCase ≠ .preserving)
    {variant : NameVariant} {name converted : String}
    (conversion : nameCase.convert? variant name = some converted) :
    nameCase.Spells variant name.toList converted.toList := by
  obtain ⟨someWords, isJoined⟩ := (convert?_eq_some_iff recases).mp conversion
  have free : ∀ word ∈ Word.segment name.toList, '_' ∉ nameCase.spell word := by
    intro word isWord
    rw [← NameVariant.forceInitial_preserving (nameCase.spell word)]
    exact underscore_not_mem_spell nameCase .preserving isWord
  refine ⟨?sameLetters, ?unseparated, ?separated, ?dictated, ?initial⟩
  case sameLetters =>
    rw [Word.map_toLower_filter, isJoined, NameVariant.map_toLower_forceInitial,
      ← Word.map_toLower_filter, map_toLower_filter_join nameCase free, Word.flatten_segment]
  case unseparated =>
    rintro rfl
    rw [Word.underscore_mem_iff, isJoined, NameVariant.map_toLower_forceInitial,
      ← Word.underscore_mem_iff]
    intro member
    obtain ⟨position, found⟩ := List.mem_iff_getElem?.mp member
    obtain ⟨before, word, after, index, isWords, -, isThere⟩ :=
      exists_place found List.not_mem_nil
    exact free word (by simp [isWords]) (List.mem_of_getElem? isThere)
  case separated =>
    intro snake
    have pieces := splitOn_convert? snake conversion
    refine ⟨?_, Text.separates_of_no_empty_piece ?_⟩
    · rw [Word.count_underscore, pieces, length_spelledWords]
    · rw [pieces]
      intro empty
      obtain ⟨word, isWord, initial, -, same⟩ := exists_of_mem_spelledWords empty
      exact forceInitial_spell_ne_nil nameCase initial isWord same.symm
  case dictated =>
    intro position letter behind found isLetter
    rw [isJoined, NameVariant.getElem?_forceInitial behind] at found
    exact exists_place_of_letter recases found isLetter
  case initial =>
    intro first isFirst isLetter
    rw [isJoined, NameVariant.head?_forceInitial] at isFirst
    obtain ⟨front, isFront, rfl⟩ := Option.map_eq_some_iff.mp isFirst
    cases forced : variant.initial? with
    | some letterCase =>
      rw [forced] at isLetter
      exact ⟨letterCase, rfl, letterCase.isCaseOf_apply isLetter⟩
    | none =>
      rw [forced] at isLetter
      rw [List.head?_eq_getElem?] at isFront
      obtain ⟨before, word, after, index, -, isPlace, -, isDictated⟩ :=
        exists_place_of_letter recases isFront isLetter
      -- Only the first place of the first word is in front.
      obtain rfl : index = 0 := by omega
      exact isDictated

/-- Conversions lose no letters. An identifier becomes nothing under a case other than the
preserving one exactly if it has no letter or digit, and otherwise a text that spells its words. -/
theorem convert?_spells {nameCase : NameCase} (recases : nameCase ≠ .preserving)
    (variant : NameVariant) (name : String) :
    (nameCase.convert? variant name = none ↔
      ∀ character ∈ name.toList, character.isAlphanum = false) ∧
    ∀ converted ∈ nameCase.convert? variant name,
      nameCase.Spells variant name.toList converted.toList := by
  refine ⟨?_, fun converted => spells_of_convert? recases⟩
  rw [convert?_eq_none_iff recases, Word.segment_eq_nil_iff]

/-- As a variable in camel case, `__HTTPServer_2Go` has only its first letter forced into lower
case. The one behind the digit is in front of a word, too. -/
theorem server_variable_spells :
    camel ≠ .preserving ∧
      camel.convert? .variable "__HTTPServer_2Go" = some "httpServer2Go" ∧
      camel.Spells .variable "__HTTPServer_2Go".toList "httpServer2Go".toList :=
  ⟨by decide, by decide,
    (convert?_spells (by decide) .variable "__HTTPServer_2Go").2 "httpServer2Go" (by decide)⟩

end NameCase

end ForeignBindings
