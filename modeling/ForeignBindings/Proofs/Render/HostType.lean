import Mathlib.Data.List.Basic

/-!
# The grammar of Haskell types

Types as Haskell reads them, with the grammar of its report cut down to what a rendered type may
consist of: constructors and variables, application, which associates to the left, and the arrow,
which associates to the right and binds less tightly. `HostType.parse` reads the tokens of a type
one by one; `HostType.parse_eq_some_iff` says that it reads what the grammar derives and nothing
else, so that no text has two readings.
-/

namespace ForeignBindings

/-- What the text of a Haskell type consists of. -/
inductive HostToken where
  | opening
  | closing
  | arrow
  /-- The word `forall`. -/
  | quantifier
  /-- The dot behind quantified variables. -/
  | dot
  | constructor (name : String)
  | «variable» (name : String)
deriving DecidableEq, Repr

/-- A Haskell type as a tree. The unit type is a constructor. -/
inductive HostType where
  | constructor (name : String)
  | «variable» (name : String)
  | apply (function argument : HostType)
  | arrow (argument result : HostType)
deriving DecidableEq, Repr

namespace HostType

/-- How tightly a piece of text holds together: an atom may stand anywhere, an application
everywhere but as an argument, any other type only on its own, in parentheses or behind an
arrow. -/
inductive Tightness where
  | atom
  | application
  | loose

/-- The grammar: the tokens of a type, as tight as they are. -/
inductive Reads : Tightness → List HostToken → HostType → Prop
  | constructor (name : String) : Reads .atom [.constructor name] (.constructor name)
  | «variable» (name : String) : Reads .atom [.variable name] (.variable name)
  | unit : Reads .atom [.opening, .closing] (.constructor "()")
  | parentheses {tokens type} (inside : Reads .loose tokens type) :
      Reads .atom (.opening :: tokens ++ [.closing]) type
  | atom {tokens type} (alone : Reads .atom tokens type) : Reads .application tokens type
  | apply {first second function argument} (left : Reads .application first function)
      (right : Reads .atom second argument) :
      Reads .application (first ++ second) (.apply function argument)
  | application {tokens type} (alone : Reads .application tokens type) : Reads .loose tokens type
  | arrow {first second argument result} (left : Reads .application first argument)
      (right : Reads .loose second result) :
      Reads .loose (first ++ .arrow :: second) (.arrow argument result)

/-! ## Reading token by token -/

/-- What has been read since a parenthesis was opened. -/
structure Frame where
  /-- What stands in front of the arrows, the last one first. -/
  arguments : List HostType := []
  /-- What stands behind the last arrow. -/
  current : Option HostType := none
deriving DecidableEq, Repr

namespace Frame

/-- Takes an atom, as what comes first or as an argument of what is there. -/
def take (frame : Frame) (atom : HostType) : Frame :=
  match frame.current with
  | none => { frame with current := some atom }
  | some function => { frame with current := some (.apply function atom) }

/-- Puts the arguments in front of a result, the last one first. -/
def close (arguments : List HostType) (result : HostType) : HostType :=
  arguments.foldl (fun result argument => .arrow argument result) result

/-- The type that has been read, if there is one behind the last arrow. -/
def type? (frame : Frame) : Option HostType := frame.current.map (close frame.arguments)

end Frame

/-- Reads a token, with the frames of the open parentheses. -/
def step : (frames : Frame × List Frame) → HostToken → Option (Frame × List Frame)
  | (frame, outer), .constructor name => some (frame.take (.constructor name), outer)
  | (frame, outer), .variable name => some (frame.take (.variable name), outer)
  | (frame, outer), .arrow =>
    frame.current.map fun argument => ({ arguments := argument :: frame.arguments }, outer)
  | (frame, outer), .opening => some ({}, frame :: outer)
  | (frame, enclosing :: outer), .closing =>
    if frame = {} then some (enclosing.take (.constructor "()"), outer)
    else frame.type?.map fun type => (enclosing.take type, outer)
  | (_, []), .closing | _, .quantifier | _, .dot => none

/-- Reads tokens in order. -/
def steps (frames : Frame × List Frame) (tokens : List HostToken) :
    Option (Frame × List Frame) := tokens.foldlM step frames

/-- The type that tokens make up, if they do. -/
def parse (tokens : List HostToken) : Option HostType :=
  match steps ({}, []) tokens with
  | some (frame, []) => frame.type?
  | _ => none

theorem steps_append (frames : Frame × List Frame) (first second : List HostToken) :
    steps frames (first ++ second) = (steps frames first).bind fun frames => steps frames second :=
  List.foldlM_append

theorem steps_cons (frames : Frame × List Frame) (token : HostToken) (tokens : List HostToken) :
    steps frames (token :: tokens) = (step frames token).bind fun frames => steps frames tokens :=
  List.foldlM_cons

/-! ## What the grammar derives is read -/

/-- What reading the tokens of a type does: an atom is taken by the frame in which it stands, a
looser type has to stand behind an arrow or a parenthesis. -/
def Advances : Tightness → List HostToken → HostType → Prop
  | .atom, tokens, type =>
    ∀ frame outer, steps (frame, outer) tokens = some (frame.take type, outer)
  | .application, tokens, type =>
    ∀ arguments outer,
      steps (⟨arguments, none⟩, outer) tokens = some (⟨arguments, some type⟩, outer)
  | .loose, tokens, type =>
    ∀ arguments outer, ∃ later, steps (⟨arguments, none⟩, outer) tokens = some (later, outer) ∧
      later.type? = some (Frame.close arguments type)

/-- Tokens that the grammar derives are read, whatever stands around them. -/
theorem Reads.advances {tightness : Tightness} {tokens : List HostToken} {type : HostType}
    (reads : Reads tightness tokens type) : Advances tightness tokens type := by
  induction reads with
  | constructor name => exact fun frame outer => rfl
  | «variable» name => exact fun frame outer => rfl
  | unit => exact fun frame outer => rfl
  | @parentheses tokens type inside inductionHypothesis =>
    intro frame outer
    obtain ⟨later, run, isType⟩ := inductionHypothesis [] (frame :: outer)
    have notEmpty : later ≠ {} := by
      rintro rfl
      cases isType
    have opens : step (frame, outer) .opening = some ({}, frame :: outer) := rfl
    rw [List.cons_append, steps_cons, opens, Option.bind_some, steps_append, run,
      Option.bind_some, steps_cons]
    simp [step, notEmpty, isType, steps, Frame.close]
  | @atom tokens type alone inductionHypothesis =>
    exact fun arguments outer => inductionHypothesis ⟨arguments, none⟩ outer
  | @apply first second function argument left right leftHypothesis rightHypothesis =>
    intro arguments outer
    rw [steps_append, leftHypothesis, Option.bind_some, rightHypothesis]
    rfl
  | @application tokens type alone inductionHypothesis =>
    exact fun arguments outer => ⟨_, inductionHypothesis arguments outer, rfl⟩
  | @arrow first second argument result left right leftHypothesis rightHypothesis =>
    intro arguments outer
    obtain ⟨later, run, isType⟩ := rightHypothesis (argument :: arguments) outer
    refine ⟨later, ?_, isType⟩
    rw [steps_append, leftHypothesis, Option.bind_some, steps_cons]
    exact run

/-! ## What is read is derived by the grammar -/

/-- Tokens of types with an arrow behind each, the last one first. -/
inductive ReadsArguments : List HostToken → List HostType → Prop
  | nil : ReadsArguments [] []
  | cons {first second argument arguments} (front : ReadsArguments first arguments)
      (last : Reads .application second argument) :
      ReadsArguments (first ++ second ++ [.arrow]) (argument :: arguments)

/-- Tokens that a frame has been filled with. -/
inductive FilledBy : Frame → List HostToken → Prop
  | waiting {arguments tokens} (front : ReadsArguments tokens arguments) :
      FilledBy ⟨arguments, none⟩ tokens
  | reading {arguments first second type} (front : ReadsArguments first arguments)
      (last : Reads .application second type) :
      FilledBy ⟨arguments, some type⟩ (first ++ second)

/-- Tokens that frames have been filled with. Behind those of an outer frame there is a
parenthesis. -/
inductive FramesFilledBy : Frame × List Frame → List HostToken → Prop
  | outermost {frame tokens} (filled : FilledBy frame tokens) :
      FramesFilledBy (frame, []) tokens
  | inside {frame enclosing outer first second} (around : FramesFilledBy (enclosing, outer) first)
      (filled : FilledBy frame second) :
      FramesFilledBy (frame, enclosing :: outer) (first ++ .opening :: second)

/-- Arguments in front of a type are those of an arrow. -/
theorem ReadsArguments.reads_close {first second : List HostToken} {arguments : List HostType}
    {result : HostType} (front : ReadsArguments first arguments)
    (last : Reads .loose second result) :
    Reads .loose (first ++ second) (Frame.close arguments result) := by
  induction front generalizing second result with
  | nil => exact last
  | cons front middle inductionHypothesis =>
    have behind := inductionHypothesis (.arrow middle last)
    rwa [List.append_assoc, List.append_assoc]

/-- The type of a frame is derived from what filled it. -/
theorem FilledBy.reads {frame : Frame} {tokens : List HostToken} {type : HostType}
    (filled : FilledBy frame tokens) (isType : frame.type? = some type) :
    Reads .loose tokens type := by
  cases filled with
  | waiting front => cases isType
  | reading front last =>
    obtain rfl := Option.some.inj isType
    exact front.reads_close (.application last)

/-- A frame that is filled with an atom more has taken it. -/
theorem FilledBy.take {frame : Frame} {first second : List HostToken} {type : HostType}
    (filled : FilledBy frame first) (last : Reads .atom second type) :
    FilledBy (frame.take type) (first ++ second) := by
  cases filled with
  | waiting front => exact .reading front (.atom last)
  | @reading arguments before after function front left =>
    rw [List.append_assoc]
    exact .reading front (.apply left last)

/-- Only the innermost frame is filled. -/
theorem FramesFilledBy.fill {frame later : Frame} {outer : List Frame}
    {tokens more : List HostToken} (filled : FramesFilledBy (frame, outer) tokens)
    (fills : ∀ tokens, FilledBy frame tokens → FilledBy later (tokens ++ more)) :
    FramesFilledBy (later, outer) (tokens ++ more) := by
  cases filled with
  | outermost filled => exact .outermost (fills _ filled)
  | inside around filled =>
    rw [List.append_assoc, List.cons_append]
    exact .inside around (fills _ filled)

/-- Reading a token fills the frames with it. -/
theorem FramesFilledBy.step {frames later : Frame × List Frame} {tokens : List HostToken}
    {token : HostToken} (filled : FramesFilledBy frames tokens)
    (stepped : HostType.step frames token = some later) :
    FramesFilledBy later (tokens ++ [token]) := by
  obtain ⟨frame, outer⟩ := frames
  cases token with
  | constructor name =>
    obtain rfl := Option.some.inj stepped
    exact filled.fill fun _ filled => filled.take (.constructor name)
  | «variable» name =>
    obtain rfl := Option.some.inj stepped
    exact filled.fill fun _ filled => filled.take (.variable name)
  | arrow =>
    obtain ⟨argument, isCurrent, rfl⟩ := Option.map_eq_some_iff.mp stepped
    refine filled.fill fun _ filled => ?_
    cases filled with
    | waiting front => cases isCurrent
    | reading front last =>
      obtain rfl := Option.some.inj isCurrent
      exact .waiting (.cons front last)
  | opening =>
    obtain rfl := Option.some.inj stepped
    exact .inside filled (.waiting .nil)
  | closing =>
    cases filled with
    | outermost => cases stepped
    | @inside frame enclosing outer first second around filled =>
      rw [List.append_assoc, List.cons_append]
      simp only [HostType.step] at stepped
      split at stepped
      case isTrue isEmpty =>
        subst isEmpty
        obtain rfl := Option.some.inj stepped
        cases filled with
        | waiting front =>
          cases front
          exact around.fill fun _ filled => filled.take .unit
      case isFalse =>
        obtain ⟨type, isType, rfl⟩ := Option.map_eq_some_iff.mp stepped
        exact around.fill fun _ around => around.take (.parentheses (filled.reads isType))
  | quantifier => cases stepped
  | dot => cases stepped

/-- Reading tokens fills the frames with them. -/
theorem FramesFilledBy.steps {frames later : Frame × List Frame} {tokens more : List HostToken}
    (filled : FramesFilledBy frames tokens) (run : HostType.steps frames more = some later) :
    FramesFilledBy later (tokens ++ more) := by
  induction more generalizing frames tokens with
  | nil =>
    obtain rfl := Option.some.inj run
    rwa [List.append_nil]
  | cons token more inductionHypothesis =>
    rw [steps_cons] at run
    obtain ⟨middle, stepped, rest⟩ := Option.bind_eq_some_iff.mp run
    have behind := inductionHypothesis (filled.step stepped) rest
    rwa [List.append_assoc] at behind

/-- Tokens are read as a type exactly if the grammar derives them. -/
theorem parse_eq_some_iff {tokens : List HostToken} {type : HostType} :
    parse tokens = some type ↔ Reads .loose tokens type := by
  constructor
  · intro parsed
    unfold parse at parsed
    split at parsed
    case h_1 frame run =>
      have filled := (FramesFilledBy.outermost (.waiting .nil)).steps run
      cases filled with
      | outermost filled => exact filled.reads parsed
    case h_2 => cases parsed
  · intro reads
    obtain ⟨later, run, isType⟩ := reads.advances [] []
    unfold parse
    rw [show (({}, []) : Frame × List Frame) = (⟨[], none⟩, []) from rfl, run]
    exact isType

end HostType

end ForeignBindings
