import ForeignBindings.Proofs.Name.Segmentation

/-!
# Respelling identifiers

A conversion other than the preserving one sees of an identifier only its words in lower case,
and the snake cases keep these: their underscores stand where the words were cut, and a respelled
word is not cut again. So a conversion to a snake case is lost in any later conversion. It is
otherwise with an identifier in upper case that becomes a variable, whose first letter in lower
case makes a word of its own, and with camel case, which has no separator:
`NameCase.convert?_after_snake`.
-/

namespace ForeignBindings

namespace Word

/-- The words of an identifier in lower case. -/
def lowercase (name : List Char) : List (List Char) :=
  (segment name).map fun word => word.map Char.toLower

/-- A text is one word. -/
def IsWord (text : List Char) : Prop := segment text = [text]

/-- A run that is cut nowhere is one word. -/
theorem ofRun_eq_singleton {run : List Char} (nonempty : run ≠ [])
    (whole : ∀ position, ¬ IsCutBefore run position) : ofRun run = [run] := by
  refine (cutsInto_ofRun nonempty).unique ⟨by simp, by simpa using nonempty, fun position => ?_⟩
  refine iff_of_false ?_ (whole position)
  simp [startsAt_cons_iff, not_startsAt_nil]

/-- A run without lower-case letters is one word. -/
theorem ofRun_of_no_lower {run : List Char} (nonempty : run ≠ [])
    (noLower : ∀ character ∈ run, character.isLower = false) : ofRun run = [run] := by
  refine ofRun_eq_singleton nonempty ?_
  rintro position ⟨⟨letter, member, lower⟩, -⟩
  rw [noLower letter member] at lower
  cases lower

/-- A run with upper-case letters at most in front is one word. -/
theorem ofRun_of_no_upper {first : Char} {rest : List Char}
    (noUpper : ∀ character ∈ rest, character.isUpper = false) :
    ofRun (first :: rest) = [first :: rest] := by
  refine ofRun_eq_singleton (List.cons_ne_nil _ _) ?_
  rintro position ⟨-, index, previous, current, -, -, isThere, upper, -⟩
  rw [noUpper current (List.mem_of_getElem? isThere)] at upper
  cases upper

/-- Words that are not cut themselves are the words of the text in which underscores join them. -/
theorem segment_intercalate {words : List (List Char)}
    (areWords : ∀ word ∈ words, IsWord word) : segment (['_'].intercalate words) = words := by
  induction words with
  | nil => rfl
  | cons word words inductionHypothesis =>
    obtain ⟨first, others⟩ := List.forall_mem_cons.mp areWords
    cases words with
    | nil => simpa [List.intercalate, IsWord] using first
    | cons next words =>
      have joined : ['_'].intercalate (word :: next :: words) =
          word ++ '_' :: ['_'].intercalate (next :: words) := by
        simp [List.intercalate]
      rw [joined, segment_append_cons _ _ (by decide), first, inductionHypothesis others]
      rfl

end Word

namespace NameVariant

/-- Forcing the initial changes at most the case of the first character. -/
theorem exists_forceInitial_cons (variant : NameVariant) (first : Char) :
    ∃ forced : Char, forced.toLower = first.toLower ∧
      ∀ rest, variant.forceInitial (first :: rest) = forced :: rest := by
  unfold forceInitial
  cases variant.initial? with
  | none => exact ⟨first, rfl, fun _ => rfl⟩
  | some letterCase =>
    refine ⟨letterCase.apply first, ?_, fun _ => rfl⟩
    cases letterCase <;> simp [LetterCase.apply]

/-- Forcing the initial leaves the letters the same. -/
theorem map_toLower_forceInitial (variant : NameVariant) (text : List Char) :
    (variant.forceInitial text).map Char.toLower = text.map Char.toLower := by
  cases text with
  | nil => rfl
  | cons first rest =>
    obtain ⟨forced, sameLetter, isForced⟩ := variant.exists_forceInitial_cons first
    rw [isForced, List.map_cons, List.map_cons, sameLetter]

theorem forceInitial_preserving (text : List Char) : preserving.forceInitial text = text := by
  cases text <;> rfl

end NameVariant

namespace NameCase

/-- Whether the case joins words by underscores. -/
def isSnake : NameCase → Bool
  | snakeAllLower | snakeInitialUpper | snakeAllUpper => true
  | preserving | camel => false

theorem ne_preserving_of_isSnake {nameCase : NameCase} (snake : nameCase.isSnake = true) :
    nameCase ≠ .preserving := by
  rintro rfl
  cases snake

/-- What a case makes of a word depends on its letters only. -/
theorem spell_map_toLower {nameCase : NameCase} (recases : nameCase ≠ .preserving)
    (word : List Char) : nameCase.spell (word.map Char.toLower) = nameCase.spell word := by
  have lower : Char.toLower ∘ Char.toLower = Char.toLower :=
    funext Char.toLower_toLower_eq_toLower
  have upper : Char.toUpper ∘ Char.toLower = Char.toUpper :=
    funext Char.toUpper_toLower_eq_toUpper
  have capitalized : capitalize (word.map Char.toLower) = capitalize word := by
    cases word <;> simp [capitalize, lower]
  cases nameCase with
  | preserving => exact absurd rfl recases
  | camel | snakeInitialUpper => exact capitalized
  | snakeAllLower => simp [spell, lower]
  | snakeAllUpper => simp [spell, upper]

/-- Other identifiers become their words, joined, with the initial forced. -/
theorem convert?_eq_some_iff {nameCase : NameCase} (recases : nameCase ≠ .preserving)
    {variant : NameVariant} {name converted : String} :
    nameCase.convert? variant name = some converted ↔
      Word.segment name.toList ≠ [] ∧
        converted.toList = variant.forceInitial (nameCase.join (Word.segment name.toList)) := by
  cases words : Word.segment name.toList with
  | nil => simp [convert?_of_no_words recases words]
  | cons word others =>
    rw [convert?_of_words recases words, Option.some.injEq, ← String.toList_inj,
      String.toList_ofList, and_iff_right (List.cons_ne_nil _ _), eq_comm]

/-- What a case makes of an identifier depends on its words in lower case only. -/
theorem convert?_congr {nameCase : NameCase} (recases : nameCase ≠ .preserving)
    (variant : NameVariant) {name other : String}
    (sameWords : Word.lowercase name.toList = Word.lowercase other.toList) :
    nameCase.convert? variant name = nameCase.convert? variant other := by
  have spelled : ∀ words : List (List Char),
      (words.map fun word => word.map Char.toLower).map nameCase.spell =
        words.map nameCase.spell := by
    intro words
    rw [List.map_map]
    exact List.map_congr_left fun word _ => spell_map_toLower recases word
  have sameJoin : nameCase.join (Word.segment name.toList) =
      nameCase.join (Word.segment other.toList) := by
    unfold join
    rw [← spelled, ← spelled (Word.segment other.toList)]
    exact congrArg (fun words => nameCase.separator.intercalate (words.map nameCase.spell))
      sameWords
  have sameLength : (Word.segment name.toList).length = (Word.segment other.toList).length := by
    simpa [Word.lowercase] using congrArg List.length sameWords
  cases words : Word.segment name.toList with
  | nil =>
    rw [words] at sameLength
    rw [convert?_of_no_words recases words,
      convert?_of_no_words recases (List.length_eq_zero_iff.mp sameLength.symm)]
  | cons word others =>
    cases otherWords : Word.segment other.toList with
    | nil =>
      rw [words, otherWords] at sameLength
      cases sameLength
    | cons otherWord otherOthers =>
      rw [convert?_of_words recases words, convert?_of_words recases otherWords, ← words,
        ← otherWords, sameJoin]

/-! ## Spelled words -/

theorem isAlphanum_toLower (character : Char) :
    character.toLower.isAlphanum = character.isAlphanum := by
  by_cases upper : character.isUpper = true
  · simp [Char.isAlphanum, Char.isAlpha, upper]
  · rw [Char.toLower_eq_of_not_isUpper upper]

/-- Spelling a word leaves its letters the same. -/
theorem map_toLower_spell (nameCase : NameCase) (word : List Char) :
    (nameCase.spell word).map Char.toLower = word.map Char.toLower := by
  cases nameCase with
  | preserving => rfl
  | camel | snakeInitialUpper => cases word <;> simp [spell, capitalize]
  | snakeAllLower | snakeAllUpper => simp [spell]

/-- So does spelling it in front of an identifier. -/
theorem map_toLower_forceInitial_spell (nameCase : NameCase) (variant : NameVariant)
    (word : List Char) :
    (variant.forceInitial (nameCase.spell word)).map Char.toLower = word.map Char.toLower := by
  rw [NameVariant.map_toLower_forceInitial, map_toLower_spell]

/-- A spelled word still consists of letters and digits. -/
theorem isAlphanum_of_mem_forceInitial_spell (nameCase : NameCase) (variant : NameVariant)
    {name word : List Char} (isWord : word ∈ Word.segment name) :
    ∀ character ∈ variant.forceInitial (nameCase.spell word), character.isAlphanum = true := by
  intro character member
  have inLower := List.mem_map_of_mem (f := Char.toLower) member
  rw [map_toLower_forceInitial_spell] at inLower
  obtain ⟨letter, isLetter, same⟩ := List.mem_map.mp inLower
  rw [← isAlphanum_toLower, ← same, isAlphanum_toLower]
  exact Word.isAlphanum_of_mem_segment isWord letter isLetter

/-- A spelled word is not empty. -/
theorem forceInitial_spell_ne_nil (nameCase : NameCase) (variant : NameVariant)
    {name word : List Char} (isWord : word ∈ Word.segment name) :
    variant.forceInitial (nameCase.spell word) ≠ [] := by
  intro empty
  have sameLetters := map_toLower_forceInitial_spell nameCase variant word
  rw [empty] at sameLetters
  exact Word.ne_nil_of_mem_segment isWord (List.map_eq_nil_iff.mp sameLetters.symm)

/-- The words of an identifier, spelled, the first one with its initial forced. -/
def spelledWords (nameCase : NameCase) (variant : NameVariant) :
    List (List Char) → List (List Char)
  | [] => []
  | word :: others => variant.forceInitial (nameCase.spell word) :: others.map nameCase.spell

/-- A spelled word behind the first one is spelled as it would be in front of an identifier for
which no initial is forced. -/
theorem exists_of_mem_spelledWords {nameCase : NameCase} {variant : NameVariant}
    {words : List (List Char)} {part : List Char}
    (member : part ∈ nameCase.spelledWords variant words) :
    ∃ word ∈ words, ∃ initial : NameVariant, (initial = variant ∨ initial = .preserving) ∧
      part = initial.forceInitial (nameCase.spell word) := by
  cases words with
  | nil => cases member
  | cons word others =>
    rcases List.mem_cons.mp member with rfl | member
    · exact ⟨word, List.mem_cons_self, variant, .inl rfl, rfl⟩
    · obtain ⟨other, isOther, rfl⟩ := List.mem_map.mp member
      exact ⟨other, List.mem_cons_of_mem _ isOther, .preserving, .inr rfl,
        (NameVariant.forceInitial_preserving _).symm⟩

/-- Spelling words leaves their letters the same. -/
theorem map_toLower_spelledWords (nameCase : NameCase) (variant : NameVariant)
    (words : List (List Char)) :
    (nameCase.spelledWords variant words).map (fun part => part.map Char.toLower) =
      words.map fun word => word.map Char.toLower := by
  cases words with
  | nil => rfl
  | cons word others =>
    rw [spelledWords, List.map_cons, List.map_cons, map_toLower_forceInitial_spell, List.map_map]
    exact congrArg _ (List.map_congr_left fun other _ => map_toLower_spell nameCase other)

/-! ## Words in snake case -/

section Snake

variable {nameCase : NameCase} {variant : NameVariant}

/-- What a snake case makes of a word in front of an identifier is not cut, unless it is in upper
case and made to start in lower case. -/
theorem ofRun_forceInitial_spell (snake : nameCase.isSnake = true)
    (allowed : ¬ (nameCase = .snakeAllUpper ∧ variant = .variable)) {word : List Char}
    (nonempty : word ≠ []) :
    Word.ofRun (variant.forceInitial (nameCase.spell word)) =
      [variant.forceInitial (nameCase.spell word)] := by
  obtain ⟨first, rest, rfl⟩ := List.exists_cons_of_ne_nil nonempty
  have lowerTail : ∀ initial, Word.ofRun (variant.forceInitial (initial :: rest.map Char.toLower)) =
      [variant.forceInitial (initial :: rest.map Char.toLower)] := by
    intro initial
    obtain ⟨forced, -, isForced⟩ := variant.exists_forceInitial_cons initial
    rw [isForced]
    exact Word.ofRun_of_no_upper (by simp)
  cases nameCase with
  | preserving | camel => cases snake
  | snakeAllLower => exact lowerTail first.toLower
  | snakeInitialUpper => exact lowerTail first.toUpper
  | snakeAllUpper =>
    -- All letters are in upper case, the first one too, for it is not forced into lower case.
    have sameFirst : variant.forceInitial (first.toUpper :: rest.map Char.toUpper) =
        first.toUpper :: rest.map Char.toUpper := by
      cases variant with
      | «variable» => exact absurd ⟨rfl, rfl⟩ allowed
      | preserving => rfl
      | moduleName | typeConstructor | dataConstructor =>
        simp [NameVariant.forceInitial, NameVariant.initial?, LetterCase.apply]
    change Word.ofRun (variant.forceInitial (first.toUpper :: rest.map Char.toUpper)) =
      [variant.forceInitial (first.toUpper :: rest.map Char.toUpper)]
    rw [sameFirst]
    exact Word.ofRun_of_no_lower (List.cons_ne_nil _ _) (by simp)

/-- What a snake case makes of words are words again. -/
theorem isWord_of_mem_spelledWords (snake : nameCase.isSnake = true)
    (allowed : ¬ (nameCase = .snakeAllUpper ∧ variant = .variable)) {name part : List Char}
    (member : part ∈ nameCase.spelledWords variant (Word.segment name)) : Word.IsWord part := by
  obtain ⟨word, isWord, initial, isInitial, rfl⟩ := exists_of_mem_spelledWords member
  have alsoAllowed : ¬ (nameCase = .snakeAllUpper ∧ initial = .variable) := by
    rcases isInitial with rfl | rfl
    · exact allowed
    · simp
  unfold Word.IsWord
  rw [Word.segment_eq_ofRun (forceInitial_spell_ne_nil nameCase initial isWord)
    (isAlphanum_of_mem_forceInitial_spell nameCase initial isWord)]
  exact ofRun_forceInitial_spell snake alsoAllowed (Word.ne_nil_of_mem_segment isWord)

theorem separator_of_isSnake (snake : nameCase.isSnake = true) : nameCase.separator = ['_'] := by
  cases nameCase with
  | preserving | camel => cases snake
  | snakeAllLower | snakeInitialUpper | snakeAllUpper => rfl

/-- In snake case underscores join the spelled words. -/
theorem forceInitial_join (snake : nameCase.isSnake = true) (name : List Char) :
    variant.forceInitial (nameCase.join (Word.segment name)) =
      ['_'].intercalate (nameCase.spelledWords variant (Word.segment name)) := by
  obtain ⟨-, noWords⟩ | ⟨first, rest, others, -, words⟩ := Word.segment_first name
  · rw [noWords]
    rfl
  · obtain ⟨initial, spelled, spelling, -⟩ := nameCase.spell_cons first rest
    obtain ⟨forced, -, isForced⟩ := variant.exists_forceInitial_cons initial
    rw [words]
    unfold join spelledWords
    rw [separator_of_isSnake snake, List.map_cons]
    cases others <;> simp [List.intercalate, spelling, isForced]

/-- A snake case keeps the words of an identifier, but for their case. -/
theorem lowercase_convert? (snake : nameCase.isSnake = true)
    (allowed : ¬ (nameCase = .snakeAllUpper ∧ variant = .variable)) {name converted : String}
    (conversion : nameCase.convert? variant name = some converted) :
    Word.lowercase converted.toList = Word.lowercase name.toList := by
  obtain ⟨-, isJoined⟩ := (convert?_eq_some_iff (ne_preserving_of_isSnake snake)).mp conversion
  unfold Word.lowercase
  rw [isJoined, forceInitial_join snake,
    Word.segment_intercalate fun _ => isWord_of_mem_spelledWords snake allowed,
    map_toLower_spelledWords]

/-- A conversion to snake case is lost in a later conversion. -/
theorem convert?_bind_of_isSnake (snake : nameCase.isSnake = true)
    (allowed : ¬ (nameCase = .snakeAllUpper ∧ variant = .variable)) {later : NameCase}
    (recases : later ≠ .preserving) (laterVariant : NameVariant) (name : String) :
    (nameCase.convert? variant name).bind (later.convert? laterVariant) =
      later.convert? laterVariant name := by
  cases conversion : nameCase.convert? variant name with
  | none =>
    have noWords := (convert?_eq_none_iff (ne_preserving_of_isSnake snake)).mp conversion
    exact ((convert?_eq_none_iff recases).mpr noWords).symm
  | some converted =>
    exact convert?_congr recases laterVariant (lowercase_convert? snake allowed conversion)

end Snake

/-- A conversion to snake case is lost in a later conversion, unless it made a variable of an
identifier in upper case. So it is idempotent, and one that follows another may be followed by the
first again as if it had never been. What is kept are the words, but for their case. -/
theorem convert?_after_snake {first : NameCase} {variant : NameVariant}
    (snake : first.isSnake = true) (allowed : ¬ (first = .snakeAllUpper ∧ variant = .variable))
    (name : String) :
    (∀ (second : NameCase) (later : NameVariant), second ≠ .preserving →
      (first.convert? variant name).bind (second.convert? later) = second.convert? later name) ∧
    (first.convert? variant name).bind (first.convert? variant) = first.convert? variant name ∧
    (∀ (second : NameCase) (later : NameVariant), second.isSnake = true →
      ¬ (second = .snakeAllUpper ∧ later = .variable) →
      ((first.convert? variant name).bind (second.convert? later)).bind (first.convert? variant) =
        first.convert? variant name) ∧
    ∀ converted ∈ first.convert? variant name,
      Word.lowercase converted.toList = Word.lowercase name.toList := by
  have recases := ne_preserving_of_isSnake snake
  refine ⟨fun second later recases => convert?_bind_of_isSnake snake allowed recases later name,
    convert?_bind_of_isSnake snake allowed recases variant name, ?back,
    fun converted => lowercase_convert? snake allowed⟩
  intro second later alsoSnake alsoAllowed
  rw [convert?_bind_of_isSnake snake allowed (ne_preserving_of_isSnake alsoSnake),
    convert?_bind_of_isSnake alsoSnake alsoAllowed recases]

/-- From `HTTPServer2go` over `HTTP_SERVER2GO` to the same variable as at once. -/
theorem variable_after_upper_snake :
    snakeAllUpper.isSnake = true ∧
      ¬ (snakeAllUpper = snakeAllUpper ∧ NameVariant.typeConstructor = .variable) ∧
      (snakeAllUpper.convert? .typeConstructor "HTTPServer2go").bind
        (camel.convert? .variable) = camel.convert? .variable "HTTPServer2go" ∧
      camel.convert? .variable "HTTPServer2go" = some "httpServer2go" :=
  ⟨rfl, by decide, (convert?_after_snake rfl (by decide) "HTTPServer2go").1 camel .variable
    (by decide), by decide⟩

/-- A variable in upper case falls into other words. -/
example : (snakeAllUpper.convert? .variable "Host").bind (snakeAllLower.convert? .variable) =
    some "h_ost" := by decide

end NameCase

end ForeignBindings
