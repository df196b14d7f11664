import ForeignBindings.Name.Keywords
import ForeignBindings.Proofs.Render.HostType
import ForeignBindings.Render.State
import Mathlib

/-!
# Tokens of Haskell types

`HostToken.lex` divides the text of a type into tokens: names as long as possible, blanks between
them, arrows and parentheses. A name that starts with an upper-case letter is a constructor, one
that starts with a lower-case letter is a variable unless it is reserved. `Lexes` says which tokens
a text has wherever it ends a name, so that texts put together have their tokens put together.
Type variables are lexed as variables, and they are pairwise different.
-/

namespace ForeignBindings

namespace HostToken

/-- Whether a character may stand in a name, behind its first one. -/
def isNameCharacter (character : Char) : Bool :=
  character.isAlphanum || character == '_' || character == '\''

/-- The token that a name is, if it is one. -/
def ofName? (name : List Char) : Option HostToken :=
  match name with
  | [] => none
  | first :: _ =>
    let text := String.ofList name
    if first.isUpper then some (.constructor text)
    else if text = "forall" then some .quantifier
    else if (first.isLower || first == '_') && !Keywords.haskell.contains text then
      some (.variable text)
    else none

/-- Puts the name that has been read, if there is one, in front of tokens. -/
def finish (name : List Char) (tokens : Option (List HostToken)) : Option (List HostToken) :=
  if name = [] then tokens
  else (ofName? name).bind fun token => tokens.map (token :: ·)

/-- The tokens that a character is on its own. -/
def ofCharacter? (character : Char) : Option (List HostToken) :=
  if character.isWhitespace then some []
  else if character = '(' then some [.opening]
  else if character = ')' then some [.closing]
  else if character = '.' then some [.dot]
  else none

/-- The tokens of a text behind a part of a name. -/
def lexBehind (name : List Char) : List Char → Option (List HostToken)
  | [] => finish name (some [])
  | '-' :: '>' :: rest => finish name ((lexBehind [] rest).map (.arrow :: ·))
  | character :: rest =>
    if isNameCharacter character then lexBehind (name ++ [character]) rest
    else finish name
      ((ofCharacter? character).bind fun tokens => (lexBehind [] rest).map (tokens ++ ·))

/-- The tokens of a text. -/
def lex (text : String) : Option (List HostToken) := lexBehind [] text.toList

/-- No name goes on in a text. -/
def EndsName (text : List Char) : Prop :=
  ∀ character ∈ text.head?, isNameCharacter character = false

/-- A text has tokens, wherever no name goes on behind it. -/
def Lexes (text : String) (tokens : List HostToken) : Prop :=
  ∀ rest, EndsName rest →
    lexBehind [] (text.toList ++ rest) = (lexBehind [] rest).map (tokens ++ ·)

theorem Lexes.lex_eq {text : String} {tokens : List HostToken} (lexes : Lexes text tokens) :
    lex text = some tokens := by
  have whole := lexes [] (fun _ member => nomatch member)
  simpa [lex, lexBehind, finish] using whole

/-- A name character belongs to the name in front of it. -/
theorem lexBehind_cons {character : Char} (inName : isNameCharacter character = true)
    (name rest : List Char) :
    lexBehind name (character :: rest) = lexBehind (name ++ [character]) rest := by
  rw [lexBehind, if_pos inName]
  rintro rest rfl -
  exact absurd inName (by decide)

/-- A name ends where it does not go on. -/
theorem lexBehind_of_endsName {rest : List Char} (ends : EndsName rest) (name : List Char) :
    lexBehind name rest = finish name (lexBehind [] rest) := by
  unfold lexBehind
  split
  · rfl
  · rfl
  · rename_i character rest _
    have noName : isNameCharacter character = false := ends character rfl
    simp [noName, finish]

/-- The characters of a name are read into one token. -/
theorem lexBehind_append {more : List Char}
    (inName : ∀ character ∈ more, isNameCharacter character = true) (name rest : List Char) :
    lexBehind name (more ++ rest) = lexBehind (name ++ more) rest := by
  induction more generalizing name with
  | nil => rw [List.nil_append, List.append_nil]
  | cons character more inductionHypothesis =>
    obtain ⟨first, others⟩ := List.forall_mem_cons.mp inName
    rw [List.cons_append, lexBehind_cons first, inductionHypothesis others, List.append_assoc]
    rfl

/-- A name is one token. -/
theorem lexes_name {name : String} {token : HostToken}
    (inName : ∀ character ∈ name.toList, isNameCharacter character = true)
    (isToken : ofName? name.toList = some token) : Lexes name [token] := by
  intro rest ends
  have nonempty : name.toList ≠ [] := by
    intro empty
    rw [empty] at isToken
    cases isToken
  rw [lexBehind_append inName, List.nil_append, lexBehind_of_endsName ends]
  simp [finish, nonempty, isToken]

/-- A blank, a parenthesis or a dot is read on its own. -/
theorem lexBehind_ofCharacter (character : Char) (tokens : List HostToken)
    (noName : isNameCharacter character = false) (noDash : character ≠ '-')
    (isOwn : ofCharacter? character = some tokens) (rest : List Char) :
    lexBehind [] (character :: rest) = (lexBehind [] rest).map (tokens ++ ·) := by
  rw [lexBehind]
  · simp [noName, finish, isOwn]
  · rintro rest rfl -
    exact absurd rfl noDash

theorem lexBehind_blank (rest : List Char) : lexBehind [] (' ' :: rest) = lexBehind [] rest := by
  rw [lexBehind_ofCharacter ' ' [] (by decide) (by decide) (by decide)]
  simp

theorem lexBehind_opening (rest : List Char) :
    lexBehind [] ('(' :: rest) = (lexBehind [] rest).map (.opening :: ·) :=
  lexBehind_ofCharacter '(' [.opening] (by decide) (by decide) (by decide) rest

theorem lexBehind_closing (rest : List Char) :
    lexBehind [] (')' :: rest) = (lexBehind [] rest).map (.closing :: ·) :=
  lexBehind_ofCharacter ')' [.closing] (by decide) (by decide) (by decide) rest

theorem lexBehind_dot (rest : List Char) :
    lexBehind [] ('.' :: rest) = (lexBehind [] rest).map (.dot :: ·) :=
  lexBehind_ofCharacter '.' [.dot] (by decide) (by decide) (by decide) rest

theorem lexBehind_arrow (rest : List Char) :
    lexBehind [] ('-' :: '>' :: rest) = (lexBehind [] rest).map (.arrow :: ·) := rfl

/-! ## Texts put together -/

/-- A text between parentheses. -/
theorem Lexes.parentheses {text : String} {tokens : List HostToken} (lexes : Lexes text tokens) :
    Lexes ("(" ++ text ++ ")") (.opening :: tokens ++ [.closing]) := by
  intro rest _
  have ends : EndsName (')' :: rest) := by simp [EndsName, isNameCharacter]
  simp [lexBehind_opening, lexes _ ends, lexBehind_closing, Function.comp_def]

/-- A text behind another one and a blank. -/
theorem Lexes.blank {first second : String} {tokens more : List HostToken}
    (lexes : Lexes first tokens) (lexesSecond : Lexes second more) :
    Lexes (first ++ " " ++ second) (tokens ++ more) := by
  intro rest endsRest
  have ends : EndsName (' ' :: (second.toList ++ rest)) := by simp [EndsName, isNameCharacter]
  simp [lexes _ ends, lexBehind_blank, lexesSecond rest endsRest, Function.comp_def]

/-- A text behind another one and an arrow. -/
theorem Lexes.arrow {first second : String} {tokens more : List HostToken}
    (lexes : Lexes first tokens) (lexesSecond : Lexes second more) :
    Lexes (first ++ " -> " ++ second) (tokens ++ .arrow :: more) := by
  intro rest endsRest
  have ends : EndsName (' ' :: '-' :: '>' :: ' ' :: (second.toList ++ rest)) := by
    simp [EndsName, isNameCharacter]
  simp [lexes _ ends, lexBehind_blank, lexBehind_arrow, lexesSecond rest endsRest,
    Function.comp_def]

/-! ## Names of types -/

/-- Whether a name starts with an upper-case letter and goes on with letters, digits, underscores
and primes. -/
def isTypeName (name : String) : Bool :=
  match name.toList with
  | [] => false
  | first :: rest => first.isUpper && rest.all isNameCharacter

/-- The name of a type is a constructor. -/
theorem lexes_constructor {name : String} (isType : isTypeName name = true) :
    Lexes name [.constructor name] := by
  unfold isTypeName at isType
  split at isType
  · cases isType
  · rename_i first rest characters
    obtain ⟨upper, others⟩ := Bool.and_eq_true_iff.mp isType
    have firstInName : isNameCharacter first = true := by
      simp [isNameCharacter, Char.isAlphanum, Char.isAlpha, upper]
    have same : String.ofList (first :: rest) = name := by rw [← characters, String.ofList_toList]
    refine lexes_name ?_ ?_
    · rw [characters]
      exact List.forall_mem_cons.mpr ⟨firstInName, List.all_eq_true.mp others⟩
    · simp [characters, ofName?, upper, same]

/-! ## Type variables -/

theorem toList_typeVariable (index : Nat) :
    (typeVariable index).toList =
      List.replicate (index / 26) 'z' ++ [Char.ofNat ('a'.toNat + index % 26)] := by
  rw [typeVariable, String.toList_ofList]

/-- The letters of type variables are the lower-case letters in order. -/
theorem toNat_letter : ∀ offset < 26,
    (Char.ofNat ('a'.toNat + offset)).toNat = 'a'.toNat + offset ∧
      (Char.ofNat ('a'.toNat + offset)).isLower = true := by
  decide

theorem isLower_of_mem_typeVariable {index : Nat} {character : Char}
    (member : character ∈ (typeVariable index).toList) : character.isLower = true := by
  rw [toList_typeVariable] at member
  rcases List.mem_append.mp member with isZ | isLetter
  · rw [(List.mem_replicate.mp isZ).2]
    rfl
  · rw [List.mem_singleton.mp isLetter]
    exact (toNat_letter _ (Nat.mod_lt _ (by decide))).2

/-- No two type variables are the same. -/
theorem typeVariable_injective : Function.Injective typeVariable := by
  intro index other same
  have sameList : (typeVariable index).toList = (typeVariable other).toList := by rw [same]
  rw [toList_typeVariable, toList_typeVariable] at sameList
  have sameLength : index / 26 = other / 26 := by
    simpa using congrArg List.length sameList
  rw [sameLength, List.append_cancel_left_eq, List.singleton_inj] at sameList
  have sameLetter : index % 26 = other % 26 := by
    have letters := congrArg Char.toNat sameList
    rw [(toNat_letter _ (Nat.mod_lt index (by decide))).1,
      (toNat_letter _ (Nat.mod_lt other (by decide))).1] at letters
    omega
  omega

/-- No type variable is reserved: those of one letter are no words, and no other reserved word
starts with the last letter. -/
theorem typeVariable_not_reserved (index : Nat) :
    Keywords.haskell.contains (typeVariable index) = false := by
  have reserved : ∀ word ∈ Keywords.haskellWords, word.toList.head? ≠ some 'z' ∧
      (word.toList.length = 1 → ∃ character ∈ word.toList, character.isLower = false) := by
    simp [Keywords.haskellWords]
  have notListed : typeVariable index ∉ Keywords.haskellWords := by
    intro listed
    obtain ⟨notLast, oneLetter⟩ := reserved _ listed
    rw [toList_typeVariable] at notLast
    cases count : index / 26 with
    | zero =>
      obtain ⟨character, member, notLower⟩ := oneLetter (by simp [toList_typeVariable, count])
      rw [isLower_of_mem_typeVariable member] at notLower
      cases notLower
    | succ count' => simp [count, List.replicate_succ] at notLast
  simpa [Keywords.contains, Keywords.haskell, Keywords.ofList] using notListed

/-- A type variable is lexed as one. -/
theorem lexes_typeVariable (index : Nat) :
    Lexes (typeVariable index) [.variable (typeVariable index)] := by
  have notReserved := typeVariable_not_reserved index
  have notForall : typeVariable index ≠ "forall" := by
    intro isForall
    rw [isForall] at notReserved
    exact absurd notReserved (by decide)
  refine lexes_name (fun character member => ?_) ?_
  · simp [isNameCharacter, Char.isAlphanum, Char.isAlpha, isLower_of_mem_typeVariable member]
  · cases characters : (typeVariable index).toList with
    | nil => simp [toList_typeVariable] at characters
    | cons first rest =>
      have lower : first.isLower = true :=
        isLower_of_mem_typeVariable (characters ▸ List.mem_cons_self)
      have same : String.ofList (first :: rest) = typeVariable index := by
        rw [← characters, String.ofList_toList]
      have notUpper : first.isUpper = false :=
        Bool.eq_false_iff.mpr (Char.not_isUpper_of_isLower lower)
      simp [ofName?, same, notUpper, lower, notForall, notReserved]

end HostToken

end ForeignBindings
