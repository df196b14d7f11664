import ForeignBindings.Proofs.Name.FirstLetter

/-!
# Where identifiers are cut

The words of an identifier are given by positions: a run of letters and digits is cut before a
position exactly when `IsCutBefore` holds there, which looks at the character, at the one before
it and at the one behind it. `segment_cuts_at_boundaries` says that these are all the cuts, and
what follows: words are not empty, no letter or digit is lost, and a word is one word again.
-/

namespace ForeignBindings.Word

/-- At a position of a run, behind its first character, stands an upper-case letter, behind a
character that is none, or behind one and before a lower-case letter. -/
def IsBoundary (run : List Char) (position : Nat) : Prop :=
  ∃ index previous current, position = index + 1 ∧
    run[index]? = some previous ∧ run[index + 1]? = some current ∧ current.isUpper = true ∧
    (previous.isUpper = false ∨
      previous.isUpper = true ∧ ∃ next, run[index + 2]? = some next ∧ next.isLower = true)

/-- A run is cut before a position: it has a lower-case letter, and the position is a boundary. -/
def IsCutBefore (run : List Char) (position : Nat) : Prop :=
  (∃ letter ∈ run, letter.isLower = true) ∧ IsBoundary run position

/-- A word behind the first one starts at a position of the text that the words make up. -/
def StartsAt (words : List (List Char)) (position : Nat) : Prop :=
  ∃ before after, words = before ++ after ∧ before ≠ [] ∧ after ≠ [] ∧
    before.flatten.length = position

/-- Words are what a run is cut into. -/
structure CutsInto (run : List Char) (words : List (List Char)) : Prop where
  flatten_eq : words.flatten = run
  nonempty : ∀ word ∈ words, word ≠ []
  startsAt_iff : ∀ position, StartsAt words position ↔ IsCutBefore run position

/-! ## Positions of words -/

theorem not_startsAt_nil (position : Nat) : ¬ StartsAt [] position := by
  rintro ⟨before, after, isAppend, nonempty, -⟩
  exact nonempty (List.append_eq_nil_iff.mp isAppend.symm).1

/-- A word starts behind the first one, or it starts in the words that follow. -/
theorem startsAt_cons_iff (word : List Char) (words : List (List Char)) (position : Nat) :
    StartsAt (word :: words) position ↔
      (words ≠ [] ∧ position = word.length) ∨
        ∃ later, StartsAt words later ∧ position = word.length + later := by
  constructor
  · rintro ⟨before, after, isAppend, nonempty, left, rfl⟩
    obtain ⟨first, rest, rfl⟩ := List.exists_cons_of_ne_nil nonempty
    obtain ⟨rfl, rfl⟩ := List.cons_eq_cons.mp isAppend
    cases rest with
    | nil => exact .inl ⟨by simpa using left, by simp⟩
    | cons second rest =>
      exact .inr ⟨_, ⟨second :: rest, after, rfl, List.cons_ne_nil _ _, left, rfl⟩, by simp⟩
  · rintro (⟨nonempty, rfl⟩ | ⟨later, ⟨before, after, rfl, -, left, rfl⟩, rfl⟩)
    · exact ⟨[word], words, rfl, List.cons_ne_nil _ _, nonempty, by simp⟩
    · exact ⟨word :: before, after, rfl, List.cons_ne_nil _ _, left, by simp⟩

/-- Only the first word starts at the beginning. -/
theorem StartsAt.pos {words : List (List Char)} {position : Nat}
    (nonempty : ∀ word ∈ words, word ≠ []) (starts : StartsAt words position) :
    0 < position := by
  obtain ⟨before, after, rfl, notNil, -, rfl⟩ := starts
  obtain ⟨first, rest, rfl⟩ := List.exists_cons_of_ne_nil notNil
  have := List.length_pos_iff.mpr (nonempty first (by simp))
  rw [List.flatten_cons, List.length_append]
  omega

/-- A character more in the first word moves the others. -/
theorem startsAt_cons_cons_iff (first : Char) (word : List Char) (words : List (List Char))
    (position : Nat) :
    StartsAt ((first :: word) :: words) position ↔
      ∃ later, StartsAt (word :: words) later ∧ position = later + 1 := by
  simp only [startsAt_cons_iff, List.length_cons]
  constructor
  · rintro (⟨nonempty, rfl⟩ | ⟨later, starts, rfl⟩)
    · exact ⟨word.length, .inl ⟨nonempty, rfl⟩, rfl⟩
    · exact ⟨word.length + later, .inr ⟨later, starts, rfl⟩, by omega⟩
  · rintro ⟨_, ⟨nonempty, rfl⟩ | ⟨later, starts, rfl⟩, rfl⟩
    · exact .inl ⟨nonempty, rfl⟩
    · exact .inr ⟨later, starts, by omega⟩

/-- Another word starts where a word ends that is shorter than the text. -/
theorem length_le_of_startsAt {word : List Char} {words : List (List Char)} {position : Nat}
    (starts : StartsAt (word :: words) position) : word.length ≤ position := by
  rcases (startsAt_cons_iff word words position).mp starts with ⟨-, rfl⟩ | ⟨later, -, rfl⟩ <;> omega

/-- Two first words of one text are equally long if words start at the same positions. -/
theorem length_le_of_same_starts {first second : List Char} {firsts seconds : List (List Char)}
    (sameText : first ++ firsts.flatten = second ++ seconds.flatten)
    (starts : ∀ position,
      StartsAt (first :: firsts) position → StartsAt (second :: seconds) position) :
    second.length ≤ first.length := by
  by_cases isLast : firsts = []
  · subst isLast
    have lengths := congrArg List.length sameText
    simp only [List.flatten_nil, List.append_nil, List.length_append] at lengths
    omega
  · exact length_le_of_startsAt
      (starts first.length ((startsAt_cons_iff _ _ _).mpr (.inl ⟨isLast, rfl⟩)))

/-- Words of one text are the same if they start at the same positions. -/
theorem eq_of_same_starts {words others : List (List Char)}
    (sameText : words.flatten = others.flatten) (nonempty : ∀ word ∈ words, word ≠ [])
    (othersNonempty : ∀ word ∈ others, word ≠ [])
    (sameStarts : ∀ position, StartsAt words position ↔ StartsAt others position) :
    words = others := by
  induction words generalizing others with
  | nil =>
    cases others with
    | nil => rfl
    | cons other others =>
      have empty : other = [] := (List.append_eq_nil_iff.mp sameText.symm).1
      exact absurd empty (othersNonempty other List.mem_cons_self)
  | cons word words inductionHypothesis =>
    cases others with
    | nil =>
      have empty : word = [] := (List.append_eq_nil_iff.mp sameText).1
      exact absurd empty (nonempty word List.mem_cons_self)
    | cons other others =>
      rw [List.flatten_cons, List.flatten_cons] at sameText
      have sameLength : word.length = other.length :=
        Nat.le_antisymm
          (length_le_of_same_starts sameText.symm fun position => (sameStarts position).mpr)
          (length_le_of_same_starts sameText fun position => (sameStarts position).mp)
      obtain ⟨rfl, sameRest⟩ := List.append_inj sameText sameLength
      have restNonempty : ∀ word ∈ words, word ≠ [] :=
        fun word member => nonempty word (List.mem_cons_of_mem _ member)
      have othersNonempty : ∀ word ∈ others, word ≠ [] :=
        fun word member => othersNonempty word (List.mem_cons_of_mem _ member)
      -- A start in the rest lies behind the first word, so it is no end of the first word.
      have startsBehind : ∀ {left right : List (List Char)}, (∀ word ∈ left, word ≠ []) →
          (∀ position, StartsAt (word :: left) position → StartsAt (word :: right) position) →
          ∀ position, StartsAt left position → StartsAt right position := by
        intro left right nonempty starts position starting
        have positive := starting.pos nonempty
        rcases (startsAt_cons_iff _ _ _).mp (starts (word.length + position)
          ((startsAt_cons_iff _ _ _).mpr (.inr ⟨position, starting, rfl⟩))) with
            ⟨-, same⟩ | ⟨later, startsLater, same⟩
        · omega
        · obtain rfl : position = later := by omega
          exact startsLater
      rw [inductionHypothesis sameRest restNonempty othersNonempty fun position =>
        ⟨startsBehind restNonempty (fun position => (sameStarts position).mp) position,
          startsBehind othersNonempty (fun position => (sameStarts position).mpr) position⟩]

/-- A run is cut into words in one way only. -/
theorem CutsInto.unique {run : List Char} {words others : List (List Char)}
    (cuts : CutsInto run words) (alsoCuts : CutsInto run others) : words = others :=
  eq_of_same_starts (cuts.flatten_eq.trans alsoCuts.flatten_eq.symm) cuts.nonempty
    alsoCuts.nonempty
    fun position => (cuts.startsAt_iff position).trans (alsoCuts.startsAt_iff position).symm

/-! ## Cutting one run -/

theorem startsLower_eq_true_iff (text : List Char) :
    startsLower text = true ↔ ∃ next, text[0]? = some next ∧ next.isLower = true := by
  cases text <;> simp [startsLower]

/-- A boundary lies behind the first character, or it is one of the run without it. -/
theorem isBoundary_cons_iff (previous current : Char) (after : List Char) (position : Nat) :
    IsBoundary (previous :: current :: after) position ↔
      (startsWord previous current after = true ∧ position = 1) ∨
        ∃ later, IsBoundary (current :: after) later ∧ position = later + 1 := by
  constructor
  · rintro ⟨index, before, there, rfl, isBefore, isThere, upper, around⟩
    cases index with
    | zero =>
      simp only [List.getElem?_cons_zero, List.getElem?_cons_succ, Option.some.injEq]
        at isBefore isThere around
      subst isBefore isThere
      rw [← startsLower_eq_true_iff] at around
      refine .inl ⟨?_, rfl⟩
      rcases around with notUpper | ⟨-, lowerNext⟩
      · simp [startsWord, upper, notUpper]
      · simp [startsWord, upper, lowerNext]
    | succ index => exact .inr ⟨index + 1, ⟨index, before, there, rfl, isBefore, isThere, upper,
        around⟩, rfl⟩
  · rintro (⟨starts, rfl⟩ | ⟨later, ⟨index, before, there, rfl, isBefore, isThere, upper,
      around⟩, rfl⟩)
    · obtain ⟨upper, around⟩ := Bool.and_eq_true_iff.mp starts
      refine ⟨0, previous, current, rfl, rfl, rfl, upper, ?_⟩
      cases isUpper : previous.isUpper with
      | false => exact .inl rfl
      | true =>
        have lowerNext : startsLower after = true := by simpa [isUpper] using around
        exact .inr ⟨rfl, (startsLower_eq_true_iff after).mp lowerNext⟩
    · exact ⟨index + 1, before, there, rfl, isBefore, isThere, upper, around⟩

/-- A run of one character has no boundary. -/
theorem not_isBoundary_singleton (character : Char) (position : Nat) :
    ¬ IsBoundary [character] position := by
  rintro ⟨index, before, there, -, -, isThere, -⟩
  simp at isThere

/-- What holds of a run and its words if each character in front keeps it, whether it is a word of
its own or belongs to the word behind it. -/
theorem cut_induction {motive : List Char → List (List Char) → Prop}
    (nil : motive [] []) (singleton : ∀ character, motive [character] [[character]])
    (starts : ∀ previous current after word words, startsWord previous current after = true →
      motive (current :: after) ((current :: word) :: words) →
        motive (previous :: current :: after) ([previous] :: (current :: word) :: words))
    (continues : ∀ previous current after word words, startsWord previous current after = false →
      motive (current :: after) ((current :: word) :: words) →
        motive (previous :: current :: after) ((previous :: current :: word) :: words))
    (run : List Char) : motive run (cut run) := by
  fun_induction cut run with
  | case1 => exact nil
  | case2 character => exact singleton character
  | case3 previous current after isStart inductionHypothesis =>
    obtain ⟨word, words, isCut⟩ := cut_cons current after
    rw [isCut] at inductionHypothesis ⊢
    exact starts previous current after word words isStart inductionHypothesis
  | case4 previous current after notStart noWords =>
    obtain ⟨word, words, isCut⟩ := cut_cons current after
    rw [isCut] at noWords
    cases noWords
  | case5 previous current after notStart first words isCut inductionHypothesis =>
    obtain ⟨word, others, isCons⟩ := cut_cons current after
    obtain ⟨rfl, rfl⟩ := List.cons_eq_cons.mp (isCut.symm.trans isCons)
    rw [isCut] at inductionHypothesis
    exact continues previous current after word words (Bool.eq_false_of_not_eq_true notStart)
      inductionHypothesis

/-- Cutting a run loses nothing. -/
theorem flatten_cut (run : List Char) : (cut run).flatten = run := by
  refine cut_induction (motive := fun run words => words.flatten = run) rfl (fun _ => rfl)
    ?starts ?continues run
  case starts =>
    intro previous current after word words _ same
    rw [List.flatten_cons, same, List.singleton_append]
  case continues =>
    intro previous current after word words _ same
    rw [List.flatten_cons, List.cons_append, ← List.flatten_cons, same]

theorem ne_nil_of_mem_cut (run : List Char) : ∀ word ∈ cut run, word ≠ [] := by
  refine cut_induction (motive := fun _ words => ∀ word ∈ words, word ≠ []) (by simp) (by simp)
    ?starts ?continues run
  case starts =>
    intro previous current after word words _ nonempty
    exact List.forall_mem_cons.mpr ⟨List.cons_ne_nil _ _, nonempty⟩
  case continues =>
    intro previous current after word words _ nonempty
    exact List.forall_mem_cons.mpr ⟨List.cons_ne_nil _ _, (List.forall_mem_cons.mp nonempty).2⟩

/-- The words that a run is cut into start at its boundaries. -/
theorem startsAt_cut_iff (run : List Char) :
    ∀ position, StartsAt (cut run) position ↔ IsBoundary run position := by
  refine cut_induction (motive := fun run words =>
    ∀ position, StartsAt words position ↔ IsBoundary run position) ?nil ?singleton ?starts
      ?continues run
  case nil =>
    refine fun position => iff_of_false (not_startsAt_nil position) ?_
    rintro ⟨index, before, there, -, isBefore, -⟩
    simp at isBefore
  case singleton =>
    intro character position
    refine iff_of_false ?_ (not_isBoundary_singleton character position)
    simp [startsAt_cons_iff, not_startsAt_nil]
  case starts =>
    intro previous current after word words isStart same position
    rw [startsAt_cons_iff, isBoundary_cons_iff]
    simp [same, isStart, Nat.add_comm]
  case continues =>
    intro previous current after word words notStart same position
    rw [startsAt_cons_cons_iff, isBoundary_cons_iff]
    simp [same, notStart]

/-- With less behind it, a character starts a word only if it did before. -/
theorem startsWord_of_prefix {previous current : Char} {word after : List Char}
    (isPrefix : word <+: after) (notStart : startsWord previous current after = false) :
    startsWord previous current word = false := by
  obtain ⟨rest, rfl⟩ := isPrefix
  cases word with
  | nil =>
    simp only [startsWord, Bool.and_eq_false_iff, Bool.or_eq_false_iff] at notStart ⊢
    exact notStart.imp_right fun around => ⟨around.1, rfl⟩
  | cons next word => exact notStart

/-- A word that a run is cut into is not cut again. -/
theorem cut_eq_singleton_of_mem_cut (run : List Char) : ∀ word ∈ cut run, cut word = [word] := by
  have whole : (cut run).flatten = run ∧ ∀ word ∈ cut run, cut word = [word] := by
    refine cut_induction (motive := fun run words =>
      words.flatten = run ∧ ∀ word ∈ words, cut word = [word]) (by simp) (by simp [cut])
        ?starts ?continues run
    case starts =>
      rintro previous current after word words _ ⟨same, whole⟩
      exact ⟨by rw [List.flatten_cons, same, List.singleton_append],
        List.forall_mem_cons.mpr ⟨rfl, whole⟩⟩
    case continues =>
      rintro previous current after word words notStart ⟨same, whole⟩
      obtain ⟨first, others⟩ := List.forall_mem_cons.mp whole
      have isPrefix : word <+: after := ⟨words.flatten, (List.cons_eq_cons.mp same).2⟩
      refine ⟨congrArg (previous :: ·) same, List.forall_mem_cons.mpr ⟨?_, others⟩⟩
      rw [cut, startsWord_of_prefix isPrefix notStart, first]
      rfl
  exact whole.2

/-! ## The words of a run -/

/-- A run is cut into its words. -/
theorem cutsInto_ofRun {run : List Char} (nonempty : run ≠ []) : CutsInto run (ofRun run) := by
  unfold ofRun
  split
  case isTrue hasLower =>
    refine ⟨flatten_cut run, ne_nil_of_mem_cut run, fun position => ?_⟩
    exact (startsAt_cut_iff run position).trans
      (and_iff_right (List.any_eq_true.mp hasLower)).symm
  case isFalse noLower =>
    refine ⟨by simp, by simpa using nonempty, fun position => iff_of_false ?_ ?_⟩
    · simp [startsAt_cons_iff, not_startsAt_nil]
    · rintro ⟨lower, -⟩
      exact noLower (List.any_eq_true.mpr lower)

/-- Runs are cut into their words, each in its own. -/
theorem forall₂_cutsInto_iff {runs : List (List Char)} {cuts : List (List (List Char))}
    (nonempty : ∀ run ∈ runs, run ≠ []) :
    List.Forall₂ CutsInto runs cuts ↔ cuts = runs.map ofRun := by
  induction runs generalizing cuts with
  | nil => rw [List.forall₂_nil_left_iff, List.map_nil]
  | cons run runs inductionHypothesis =>
    obtain ⟨first, others⟩ := List.forall_mem_cons.mp nonempty
    rw [List.forall₂_cons_left_iff, List.map_cons]
    constructor
    · rintro ⟨words, rest, cutsFirst, cutsRest, rfl⟩
      rw [cutsFirst.unique (cutsInto_ofRun first), (inductionHypothesis others).mp cutsRest]
    · rintro rfl
      exact ⟨_, _, cutsInto_ofRun first, (inductionHypothesis others).mpr rfl, rfl⟩

/-- A word of a run is a run of one word. -/
theorem ofRun_eq_singleton_of_mem {run word : List Char} (member : word ∈ ofRun run) :
    ofRun word = [word] := by
  unfold ofRun at member ⊢
  split at member
  case isTrue hasLower =>
    rw [cut_eq_singleton_of_mem_cut run word member, ite_self]
  case isFalse noLower =>
    obtain rfl := List.mem_singleton.mp member
    rw [if_neg noLower]

/-! ## The words of a name -/

/-- What separates words. -/
def isSeparator (character : Char) : Bool := !character.isAlphanum

theorem pieces_eq_splitOnP (name : List Char) : pieces name = name.splitOnP isSeparator := by
  induction name with
  | nil => rfl
  | cons character rest inductionHypothesis =>
    unfold pieces
    rw [List.splitOnP_cons_eq_if_modifyHead, inductionHypothesis]
    cases alphanum : character.isAlphanum with
    | false => simp [isSeparator, alphanum]
    | true =>
      obtain ⟨piece, others, isCons⟩ :=
        List.exists_cons_of_ne_nil (List.splitOnP_ne_nil isSeparator rest)
      simp [isSeparator, alphanum, isCons]

/-- The pieces hold the letters and digits of a name, in order. -/
theorem flatten_pieces (name : List Char) :
    (pieces name).flatten = name.filter Char.isAlphanum := by
  induction name with
  | nil => rfl
  | cons character rest inductionHypothesis =>
    unfold pieces
    cases alphanum : character.isAlphanum with
    | false => simp [alphanum, inductionHypothesis]
    | true =>
      cases isPieces : pieces rest with
      | nil => simp [isPieces, alphanum, ← inductionHypothesis]
      | cons piece others => simp [isPieces, alphanum, ← inductionHypothesis]

theorem flatten_runs (name : List Char) : (runs name).flatten = name.filter Char.isAlphanum := by
  rw [runs, List.flatten_filter_not_isEmpty, flatten_pieces]

theorem ne_nil_of_mem_runs {name run : List Char} (member : run ∈ runs name) : run ≠ [] := by
  simpa using (List.mem_filter.mp member).2

/-- The words hold the letters and digits of a name, in order. -/
theorem flatten_segment (name : List Char) :
    (segment name).flatten = name.filter Char.isAlphanum := by
  have together : ∀ run ∈ runs name, (ofRun run).flatten = run :=
    fun run member => (cutsInto_ofRun (ne_nil_of_mem_runs member)).flatten_eq
  rw [segment, List.flatMap_def, List.flatten_flatten, List.map_map, ← flatten_runs]
  exact congrArg List.flatten ((List.map_congr_left together).trans (List.map_id _))

theorem ne_nil_of_mem_segment {name word : List Char} (member : word ∈ segment name) :
    word ≠ [] := by
  obtain ⟨run, isRun, isWord⟩ := List.mem_flatMap.mp member
  exact (cutsInto_ofRun (ne_nil_of_mem_runs isRun)).nonempty word isWord

theorem isAlphanum_of_mem_segment {name word : List Char} (member : word ∈ segment name) :
    ∀ character ∈ word, character.isAlphanum = true := by
  intro character isIn
  have inName : character ∈ name.filter Char.isAlphanum := by
    rw [← flatten_segment]
    exact List.mem_flatten.mpr ⟨word, member, isIn⟩
  exact (List.mem_filter.mp inName).2

/-- What is between separators is cut on its own. -/
theorem segment_append_cons (before after : List Char) {separator : Char}
    (separates : isSeparator separator = true) :
    segment (before ++ separator :: after) = segment before ++ segment after := by
  unfold segment runs
  rw [pieces_eq_splitOnP, List.splitOnP_append_cons _ _ separates, List.filter_append,
    List.flatMap_append, pieces_eq_splitOnP, pieces_eq_splitOnP]

/-- A text of letters and digits is a run. -/
theorem segment_eq_ofRun {run : List Char} (nonempty : run ≠ [])
    (alphanum : ∀ character ∈ run, character.isAlphanum = true) : segment run = ofRun run := by
  have noSeparator : ∀ character ∈ run, isSeparator character = false := by
    intro character member
    rw [isSeparator, alphanum character member]
    rfl
  unfold segment runs
  rw [pieces_eq_splitOnP, List.splitOnP_eq_singleton noSeparator]
  simp [nonempty]

/-- A word of a name is a name of one word. -/
theorem segment_eq_singleton_of_mem {name word : List Char} (member : word ∈ segment name) :
    segment word = [word] := by
  obtain ⟨run, -, isWord⟩ := List.mem_flatMap.mp member
  rw [segment_eq_ofRun (ne_nil_of_mem_segment member) (isAlphanum_of_mem_segment member)]
  exact ofRun_eq_singleton_of_mem isWord

/-- Identifiers are cut at their boundaries and nowhere else. The words of an identifier are those
that its runs between separators are cut into, run by run, and nothing else is. Hence words are not
empty and consist of letters and digits, of which none is lost; what stands on the two sides of a
separator is cut independently; and a word is not cut again. -/
theorem segment_cuts_at_boundaries (name : List Char) :
    (∀ words, words = segment name ↔
      ∃ cuts, List.Forall₂ CutsInto
          ((name.splitOnP fun character => !character.isAlphanum).filter fun run => !run.isEmpty)
          cuts ∧
        words = cuts.flatten) ∧
    (∀ word ∈ segment name, word ≠ [] ∧ ∀ character ∈ word, character.isAlphanum = true) ∧
    (segment name).flatten = name.filter Char.isAlphanum ∧
    (∀ (after : List Char) (separator : Char), separator.isAlphanum = false →
      segment (name ++ separator :: after) = segment name ++ segment after) ∧
    ∀ word ∈ segment name, segment word = [word] := by
  refine ⟨fun words => ?cuts, fun word member => ⟨ne_nil_of_mem_segment member,
    isAlphanum_of_mem_segment member⟩, flatten_segment name, ?separated,
    fun word => segment_eq_singleton_of_mem⟩
  case cuts =>
    have isRuns : ((name.splitOnP fun character => !character.isAlphanum).filter
        fun run => !run.isEmpty) = runs name := by
      rw [runs, pieces_eq_splitOnP]
      rfl
    rw [isRuns]
    simp only [forall₂_cutsInto_iff fun _ => ne_nil_of_mem_runs, exists_eq_left]
    rfl
  case separated =>
    intro after separator noAlphanum
    exact segment_append_cons name after (by simp [isSeparator, noAlphanum])

end ForeignBindings.Word
