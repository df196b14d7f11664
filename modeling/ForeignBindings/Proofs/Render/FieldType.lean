import ForeignBindings.Proofs.Render.TypeReading

/-!
# Types of record fields

`CType.outline` is the text of a type with a hole for each pointer to void. What is rendered is
the outline with its holes filled, from left to right, by type variables or by the unit type:
`CType.hostText_eq_fill`. A record field quantifies the variables that fill its holes and no
others, and a module in which it may do so turns the extension on that allows it:
`Render.fieldText_closed`.
-/

namespace ForeignBindings

open HostToken

/-- A text with holes in it. -/
abbrev Outline := List (Option String)

namespace Outline

/-- The text of an outline in which the `index`-th hole and those behind it show their targets. -/
def fill (target : Nat → String) : (index : Nat) → Outline → String
  | _, [] => ""
  | index, some text :: rest => text ++ fill target index rest
  | index, none :: rest => target index ++ fill target (index + 1) rest

theorem fill_append (target : Nat → String) (index : Nat) (first second : Outline) :
    fill target index (first ++ second) =
      fill target index first ++ fill target (index + first.count none) second := by
  induction first generalizing index with
  | nil => exact String.empty_append.symm
  | cons part rest inductionHypothesis =>
    cases part with
    | some text =>
      rw [List.cons_append, fill, fill, inductionHypothesis, String.append_assoc,
        List.count_cons_of_ne (by simp)]
    | none =>
      rw [List.cons_append, fill, fill, inductionHypothesis, String.append_assoc,
        List.count_cons_self, Nat.add_assoc, Nat.add_comm 1]

/-- The text depends on the targets that the holes show. -/
theorem fill_congr {target other : Nat → String} {outline : Outline} {index start : Nat}
    (same : ∀ offset < outline.count none, target (index + offset) = other (start + offset)) :
    fill target index outline = fill other start outline := by
  induction outline generalizing index start with
  | nil => rfl
  | cons part rest inductionHypothesis =>
    cases part with
    | some text =>
      rw [List.count_cons_of_ne (by simp)] at same
      exact congrArg (text ++ ·) (inductionHypothesis same)
    | none =>
      rw [List.count_cons_self] at same
      have first : target index = other start := same 0 (Nat.succ_pos _)
      have behind : fill target (index + 1) rest = fill other (start + 1) rest := by
        refine inductionHypothesis fun offset inRest => ?_
        have shifted := same (offset + 1) (Nat.succ_lt_succ inRest)
        rwa [Nat.add_comm offset, ← Nat.add_assoc, ← Nat.add_assoc] at shifted
      rw [fill, fill, first, behind]

/-- An outline in parentheses, if it needs them. -/
def enclosed (isNeeded : Bool) (outline : Outline) : Outline :=
  if isNeeded then some "(" :: outline ++ [some ")"] else outline

theorem fill_enclosed (target : Nat → String) (index : Nat) (isNeeded : Bool)
    (outline : Outline) :
    fill target index (enclosed isNeeded outline) =
      parenthesized isNeeded (fill target index outline) := by
  cases isNeeded with
  | false => rfl
  | true => simp [enclosed, parenthesized, fill, fill_append, String.append_assoc]

theorem count_enclosed (isNeeded : Bool) (outline : Outline) :
    (enclosed isNeeded outline).count none = outline.count none := by
  cases isNeeded <;> simp [enclosed]

end Outline

namespace CType

section Outline

variable (hostName : String → String)

mutual

/-- The text of a type, with a hole for the target of each pointer to void. -/
def outline : CType → (isArgument : Bool) → Outline
  | .scalar leaf, _ => [some leaf.haskellName]
  | .named name, _ => [some (hostName name)]
  | .pointer pointee, isArgument =>
    if pointee.isPlainChar then [some "CString"]
    else
      let target := if pointee.isVoid then [none] else pointee.outline true
      let constructor := if pointee.isFunction then "FunPtr " else "Ptr "
      Outline.enclosed isArgument (some constructor :: target)
  | .function result parameters, isArgument =>
    Outline.enclosed isArgument (argumentOutline parameters ++ some "IO " :: result.outline true)
termination_by structural type => type

/-- The text of parameters, each with the arrow behind it, with holes. -/
def argumentOutline : List (Entity CType) → Outline
  | [] => []
  | ⟨_, type⟩ :: rest => type.outline false ++ some " -> " :: argumentOutline rest
termination_by structural parameters => parameters

end

mutual

/-- There is a hole for each pointer to void. -/
theorem count_outline (type : CType) (isArgument : Bool) :
    (type.outline hostName isArgument).count none = type.voidPointers := by
  match type with
  | .scalar leaf => rfl
  | .named name => rfl
  | .pointer pointee =>
    unfold outline
    split
    case isTrue isPlainChar =>
      rw [voidPointers_pointer_of_isPlainChar isPlainChar]
      rfl
    case isFalse =>
      rw [Outline.count_enclosed, List.count_cons_of_ne (by simp)]
      unfold voidPointers
      split
      case isTrue => rfl
      case isFalse => exact count_outline pointee true
  | .function result parameters =>
    unfold outline voidPointers
    rw [Outline.count_enclosed, List.count_append, List.count_cons_of_ne (by simp),
      count_argumentOutline parameters, count_outline result true]
termination_by structural type

/-- There is a hole for each pointer to void in the types of parameters. -/
theorem count_argumentOutline (parameters : List (Entity CType)) :
    (argumentOutline hostName parameters).count none = voidPointersAll parameters := by
  match parameters with
  | [] => rfl
  | ⟨_, type⟩ :: rest =>
    unfold argumentOutline voidPointersAll
    rw [List.count_append, List.count_cons_of_ne (by simp), count_outline type false,
      count_argumentOutline rest]
termination_by structural parameters

end

/-- What a pointer to void shows behind `index` others: a type variable or the unit type. -/
def voidTarget (anyPointer : Bool) (index : Nat) : String :=
  if anyPointer then typeVariable index else "()"

/-- Where no variables are taken, it does not matter which holes are filled. -/
theorem fill_voidTarget_variablesFor (anyPointer : Bool) (fresh taken : Nat)
    (outline : Outline) :
    outline.fill (voidTarget anyPointer) (fresh + variablesFor anyPointer taken) =
      outline.fill (voidTarget anyPointer) (fresh + taken) := by
  cases anyPointer with
  | true => rfl
  | false => exact Outline.fill_congr fun _ _ => rfl

/-- Without variables, the target of a pointer to void is the unit type. -/
theorem hostText_of_isVoid {type : CType} (isVoid : type.isVoid = true) (anyPointer : Bool)
    (isArgument : Bool) (fresh : Nat) :
    type.hostText hostName anyPointer isArgument fresh = "()" := by
  cases type with
  | scalar leaf =>
    obtain ⟨sign, family, width⟩ := leaf
    obtain rfl : family = .void := by simpa [CType.isVoid, Scalar.isVoid] using isVoid
    rfl
  | pointer pointee => cases isVoid
  | named name => cases isVoid
  | function result parameters => cases isVoid

mutual

/-- The text of a type is its outline, filled. -/
theorem hostText_eq_fill (anyPointer : Bool) (type : CType) (isArgument : Bool) (fresh : Nat) :
    type.hostText hostName anyPointer isArgument fresh =
      (type.outline hostName isArgument).fill (voidTarget anyPointer) fresh := by
  match type with
  | .scalar leaf => exact String.append_empty.symm
  | .named name => exact String.append_empty.symm
  | .pointer pointee =>
    unfold hostText outline
    split
    case isTrue => rfl
    case isFalse =>
      have target :
          (if pointee.isVoid && anyPointer then typeVariable fresh
            else pointee.hostText hostName anyPointer true fresh) =
          Outline.fill (voidTarget anyPointer) fresh
            (if pointee.isVoid then [none] else pointee.outline hostName true) := by
        cases isVoid : pointee.isVoid with
        | true =>
          rw [hostText_of_isVoid hostName isVoid]
          simp [voidTarget, Outline.fill]
        | false => simpa using hostText_eq_fill anyPointer pointee true fresh
      rw [Outline.fill_enclosed, Outline.fill, ← target]
  | .function result parameters =>
    unfold hostText outline
    dsimp only
    rw [Outline.fill_enclosed, Outline.fill_append, Outline.fill,
      ← hostArguments_eq_fill anyPointer parameters fresh, count_argumentOutline,
      ← fill_voidTarget_variablesFor, ← hostText_eq_fill anyPointer result true,
      String.append_assoc]
termination_by structural type

/-- The text of parameters is their outline, filled. -/
theorem hostArguments_eq_fill (anyPointer : Bool) (parameters : List (Entity CType))
    (fresh : Nat) :
    hostArguments hostName anyPointer parameters fresh =
      (argumentOutline hostName parameters).fill (voidTarget anyPointer) fresh := by
  match parameters with
  | [] => rfl
  | ⟨_, type⟩ :: rest =>
    unfold hostArguments argumentOutline
    dsimp only
    rw [Outline.fill_append, Outline.fill, ← hostText_eq_fill anyPointer type false fresh,
      count_outline, ← fill_voidTarget_variablesFor, ← hostArguments_eq_fill anyPointer rest,
      String.append_assoc]
termination_by structural parameters

end

end Outline

end CType

/-! ## The quantifier -/

/-- Behind all variables of one letter the names start again, with a letter in front. -/
theorem typeVariable_add (index : Nat) : typeVariable (index + 26) = "z" ++ typeVariable index := by
  apply String.toList_inj.mp
  rw [String.toList_append, HostToken.toList_typeVariable, HostToken.toList_typeVariable,
    Nat.add_div_right _ (by decide), Nat.add_mod_right, List.replicate_succ]
  rfl

/-- The first variables are the letters in order. -/
theorem typeVariable_of_lt {index : Nat} (isLetter : index < 26) :
    typeVariable index = String.singleton (Char.ofNat ('a'.toNat + index)) := by
  apply String.toList_inj.mp
  rw [HostToken.toList_typeVariable, Nat.div_eq_of_lt isLetter, Nat.mod_eq_of_lt isLetter,
    String.toList_singleton]
  rfl

namespace HostToken

/-- Variables with a blank behind each are lexed one by one, in front of a text with tokens. -/
theorem Lexes.variables {text : String} {tokens : List HostToken} (behind : Lexes text tokens)
    (indices : List Nat) :
    Lexes (String.join (indices.map fun index => typeVariable index ++ " ") ++ text)
      ((indices.map fun index => .variable (typeVariable index)) ++ tokens) := by
  induction indices with
  | nil => simpa using behind
  | cons index rest inductionHypothesis =>
    rw [List.map_cons, String.join_cons, List.map_cons, String.append_assoc]
    exact (lexes_typeVariable index).blank inductionHypothesis

/-- A text behind a dot and a blank. -/
theorem Lexes.dot {text : String} {tokens : List HostToken} (lexes : Lexes text tokens) :
    Lexes (". " ++ text) (.dot :: tokens) := by
  intro rest ends
  simp [lexBehind_dot, lexBehind_blank, lexes rest ends, Function.comp_def]

/-- A quantifier is lexed as its word, its variables and its dot. -/
theorem Lexes.quantifier {text : String} {tokens : List HostToken} (lexes : Lexes text tokens)
    (count : Nat) :
    Lexes (Render.quantifier count ++ text)
      (.quantifier :: ((CType.nextVariables 0 count).map .variable ++ .dot :: tokens)) := by
  have word : Lexes "forall" [.quantifier] :=
    lexes_name (List.all_eq_true.mp (by decide)) (by simp [ofName?])
  have whole := word.blank (lexes.dot.variables (List.range count))
  rw [CType.nextVariables, List.map_map, ← List.range_eq_range']
  simpa [Render.quantifier, String.append_assoc, Function.comp_def] using whole

end HostToken

/-- No type has a quantifier in it. -/
theorem HostType.Reads.quantifier_not_mem {tightness : Tightness} {tokens : List HostToken}
    {type : HostType} (reads : Reads tightness tokens type) : .quantifier ∉ tokens := by
  induction reads with
  | constructor name => simp
  | «variable» name => simp
  | unit => simp
  | parentheses inside inductionHypothesis => simpa using inductionHypothesis
  | atom alone inductionHypothesis => exact inductionHypothesis
  | apply left right leftHypothesis rightHypothesis => simp [leftHypothesis, rightHypothesis]
  | application alone inductionHypothesis => exact inductionHypothesis
  | arrow left right leftHypothesis rightHypothesis => simp [leftHypothesis, rightHypothesis]

namespace CType

variable (hostName : String → String)

/-- The variables of a field are quantified in front of the text that shows them. -/
theorem hostFieldText_of_quantifies {options : RenderOptions} {type : CType}
    (quantifies : options.quantifiesFields = true ∧ 0 < type.voidPointers) :
    type.hostFieldText hostName options =
      Render.quantifier type.voidPointers ++ type.hostText hostName true false 0 := by
  obtain ⟨allowed, isAny⟩ := quantifies
  unfold hostFieldText
  rw [allowed]
  exact if_neg (Nat.ne_of_gt isAny)

/-- Without variables, the type of a field is rendered like any other. -/
theorem hostFieldText_of_not_quantifies {options : RenderOptions} {type : CType}
    (noVariables : ¬ (options.quantifiesFields = true ∧ 0 < type.voidPointers)) :
    type.hostFieldText hostName options = type.hostText hostName false false 0 := by
  unfold hostFieldText
  cases allowed : options.quantifiesFields with
  | false => rfl
  | true =>
    have noPointers : type.voidPointers = 0 :=
      Nat.eq_zero_of_not_pos fun isAny => noVariables ⟨allowed, isAny⟩
    rw [noPointers, hostText_eq_fill, hostText_eq_fill]
    -- There are no holes, so that it makes no difference what would fill them.
    refine Outline.fill_congr fun offset inOutline => ?_
    rw [count_outline, noPointers] at inOutline
    exact absurd inOutline (Nat.not_lt_zero offset)

end CType

namespace Render

theorem quantifier_eq (count : Nat) :
    quantifier count =
      "forall " ++ String.join ((CType.nextVariables 0 count).map (· ++ " ")) ++ ". " := by
  rw [CType.nextVariables, List.map_map, ← List.range_eq_range']
  rfl

/-- A module whose record fields may have quantifiers turns the extension for them on. -/
theorem exists_rankNTypes_line (contents : Contents) {options : RenderOptions}
    (allowed : options.allowRankNTypes = true) (name : String) {resolver : Resolver}
    (recalls : resolver.Recalls) (queue : Queue) :
    ∃ front rest, (contents.generate options name resolver queue).1.text =
      unlines (front ++ languagePragma "RankNTypes" :: rest) := by
  have isHeader : languagePragma "RankNTypes" ∈
      headerLines options (fullModuleName options name) := by
    simp [headerLines, allowed]
  obtain ⟨front, behind, header⟩ := List.append_of_mem isHeader
  rw [contents.text_generate options name recalls.answersLike queue, frontLines, header]
  simp only [List.append_assoc, List.cons_append]
  exact ⟨front, _, rfl⟩

/-- If all names in the type of a field are names of types, the variables of the text are those
that its quantifier binds, if it has one. -/
theorem lexes_hostFieldText {hostName : String → String} {type : CType}
    (isProper : ∀ name, type.Mentions name → isTypeName (hostName name) = true)
    (options : RenderOptions) :
    ∃ tokens, .quantifier ∉ tokens ∧
      (options.quantifiesFields = true ∧ 0 < type.voidPointers →
        variableNames tokens = CType.nextVariables 0 type.voidPointers ∧
        lex (type.hostFieldText hostName options) =
          some (.quantifier ::
            ((CType.nextVariables 0 type.voidPointers).map .variable ++ .dot :: tokens))) ∧
      (¬ (options.quantifiesFields = true ∧ 0 < type.voidPointers) →
        variableNames tokens = [] ∧ lex (type.hostFieldText hostName options) = some tokens) := by
  have isShown : ∀ name ∈ type.shownNames, isTypeName (hostName name) = true :=
    fun name member => isProper name (type.mem_shownNames_iff.mp member)
  have lexes (anyPointer : Bool) := type.lexes_hostText anyPointer isShown false 0
  have names (anyPointer : Bool) := type.variableNames_hostTokens hostName anyPointer false 0
  have noQuantifier (anyPointer : Bool) :
      .quantifier ∉ type.hostTokens hostName anyPointer false 0 :=
    (HostType.parse_eq_some_iff.mp
      (parse_hostTokens hostName anyPointer type false 0)).quantifier_not_mem
  by_cases quantifies : options.quantifiesFields = true ∧ 0 < type.voidPointers
  · rw [CType.hostFieldText_of_quantifies hostName quantifies]
    exact ⟨_, noQuantifier true, fun _ => ⟨names true, ((lexes true).quantifier _).lex_eq⟩,
      absurd quantifies⟩
  · rw [CType.hostFieldText_of_not_quantifies hostName quantifies]
    exact ⟨_, noQuantifier false, fun isQuantified => absurd isQuantified quantifies,
      fun _ => ⟨names false, (lexes false).lex_eq⟩⟩

/-- The type of a record field is closed. If its variables may be quantified and there is a
pointer to void in it, it is a quantifier over as many variables as there are such pointers, in
front of the text in which each of them shows its own variable, from left to right; and every
module that is generated with the same options turns the extension for such fields on. Otherwise
each pointer to void shows the unit type, and there is no quantifier. If all names in the type
are names of types, the variables are read as the only variables of the text, each of them once
behind the quantifier. What is rendered next is rendered as if there had been no field. -/
theorem fieldText_closed (state : RenderState) (recalls : state.resolver.Recalls)
    (options : RenderOptions) (type : CType) :
    let hostName := state.resolver.hostName .type
    let bound := CType.nextVariables 0 type.voidPointers
    let outline := type.outline hostName false
    let text := ((fieldText options type).run state).1
    let later := ((fieldText options type).run state).2
    let quantifies := options.voidPointerAsAny = true ∧ options.allowRankNTypes = true ∧
      options.storableInstances = false ∧ 0 < type.voidPointers
    outline.count none = type.voidPointers ∧
    (quantifies →
      text = "forall " ++ String.join (bound.map (· ++ " ")) ++ ". " ++
        outline.fill typeVariable 0 ∧
      ∀ (contents : Contents) (name : String) (resolver : Resolver) (queue : Queue),
        resolver.Recalls →
        ∃ front rest, (contents.generate options name resolver queue).1.text =
          unlines (front ++ languagePragma "RankNTypes" :: rest)) ∧
    (¬ quantifies → text = outline.fill (fun _ => "()") 0) ∧
    bound.Nodup ∧ (∀ name ∈ bound, Keywords.haskell.contains name = false) ∧
    (∀ index < 26, typeVariable index = String.singleton (Char.ofNat ('a'.toNat + index))) ∧
    (∀ index, typeVariable (index + 26) = "z" ++ typeVariable index) ∧
    ((∀ name, type.Mentions name → isTypeName (hostName name) = true) →
      ∃ tokens, .quantifier ∉ tokens ∧
        (quantifies → variableNames tokens = bound ∧
          lex text = some (.quantifier :: (bound.map .variable ++ .dot :: tokens))) ∧
        (¬ quantifies → variableNames tokens = [] ∧ lex text = some tokens)) ∧
    later.fresh = 0 ∧ later.buffer = state.buffer ∧
    ∀ anyPointer other isArgument,
      ((typeText anyPointer other isArgument).run later).1 =
        other.hostText hostName anyPointer isArgument 0 := by
  intro hostName bound outline text later quantifies
  have run := yields_fieldText options type state.fresh state recalls.answersLike rfl rfl
  have isText : text = type.hostFieldText hostName options := congrArg Prod.fst run
  have isLater : later = leave state.resolver state [] (typeRequests type.shownNames) 0 :=
    congrArg Prod.snd run
  have quantifies_iff : quantifies ↔ options.quantifiesFields = true ∧ 0 < type.voidPointers := by
    simp [quantifies, RenderOptions.quantifiesFields, and_assoc]
  refine ⟨type.count_outline hostName false, ?quantified, ?plain, CType.nodup_nextVariables 0 _,
    ?notReserved, fun index => typeVariable_of_lt, typeVariable_add, ?lexed, ?forgotten,
    ?unwritten, ?next⟩
  case quantified =>
    intro isQuantified
    refine ⟨?_, fun contents name resolver queue recalls =>
      exists_rankNTypes_line contents isQuantified.2.1 name recalls queue⟩
    rw [isText, CType.hostFieldText_of_quantifies hostName (quantifies_iff.mp isQuantified),
      quantifier_eq, CType.hostText_eq_fill]
    rfl
  case plain =>
    intro notQuantified
    rw [isText, CType.hostFieldText_of_not_quantifies hostName
      (mt quantifies_iff.mpr notQuantified), CType.hostText_eq_fill]
    rfl
  case notReserved =>
    intro name member
    obtain ⟨index, -, rfl⟩ := List.mem_map.mp member
    exact typeVariable_not_reserved index
  case lexed =>
    intro isProper
    rw [isText, quantifies_iff]
    exact lexes_hostFieldText isProper options
  case forgotten => rw [isLater, leave]
  case unwritten =>
    rw [isLater]
    simp [leave, unlines]
  case next =>
    intro anyPointer other isArgument
    have like : later.resolver.AnswersLike state.resolver := by
      rw [isLater]
      exact recalls.answersLike.resolveAll _
    have next := yields_typeText anyPointer other isArgument later.fresh later like rfl rfl
    rw [next, isLater, leave]

/-- A field that points to a function of a queue of events and anything quantifies two variables,
however many are taken where it stands. -/
theorem handler_field_quantifies_two :
    let state : RenderState := { resolver := .new "Window" {} none .none .flat, fresh := 7 }
    let handler : CType := .pointer (.function (.pointer .void)
      [⟨"", .pointer (.named "event_queue")⟩, ⟨"", .pointer .void⟩])
    state.resolver.Recalls ∧
      ((fieldText {} handler).run state).1 =
        "forall a b . FunPtr (Ptr EventQueue -> Ptr a -> IO (Ptr b))" ∧
      ((fieldText {} handler).run state).2.fresh = 0 := by
  intro state handler
  have recalls : state.resolver.Recalls := Resolver.recalls_new _ _ _ _ _
  obtain ⟨-, quantified, -, -, -, -, -, -, forgotten, -, -⟩ :=
    fieldText_closed state recalls {} handler
  refine ⟨recalls, (quantified (by decide)).1.trans ?_, forgotten⟩
  decide

end Render

end ForeignBindings
