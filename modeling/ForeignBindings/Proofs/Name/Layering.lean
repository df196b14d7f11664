import ForeignBindings.Name.Converter
import ForeignBindings.Proofs.Name.FirstLetter

/-!
# Layered converters

A chain is what converters become that are layered over each other, at any depth: a list of steps,
with those left out that change nothing. `Layering` keeps the layers, and `Layering.evaluate?`
converts a name layer by layer. `Layering.chain_refines_layers` says that the chain yields the same,
and when it yields nothing: a case conversion is reached with a text without letters and digits, or
nothing is left in the end. In between a name may well be empty.
-/

namespace ForeignBindings

namespace Affixes

/-- A text without the given beginning, if it begins so. -/
def withoutStart (start text : List Char) : List Char :=
  if start <+: text then text.drop start.length else text

/-- A text without the given end, if it ends so. -/
def withoutEnd (ending text : List Char) : List Char :=
  if ending <:+ text then text.take (text.length - ending.length) else text

theorem stripStart_eq_withoutStart (start text : List Char) :
    stripStart start text = withoutStart start text := by
  unfold stripStart withoutStart
  cases found : start.isPrefixOf? text with
  | some rest =>
    obtain rfl := List.isPrefixOf?_eq_some_iff_append_eq.mp found
    rw [if_pos (List.prefix_append start rest), List.drop_left]
    rfl
  | none =>
    have absent : ¬ start <+: text := by
      rintro ⟨rest, append⟩
      rw [List.isPrefixOf?_eq_some_iff_append_eq.mpr append] at found
      cases found
    rw [if_neg absent]
    rfl

theorem stripEnd_eq_withoutEnd (ending text : List Char) :
    stripEnd ending text = withoutEnd ending text := by
  unfold stripEnd withoutEnd
  rw [stripStart_eq_withoutStart, withoutStart, List.length_reverse, List.drop_reverse]
  simp only [List.reverse_prefix]
  split <;> rw [List.reverse_reverse]

/-- Affixes that strip and add nothing leave a name as it is. -/
theorem apply_of_isIdentity {affixes : Affixes} (identity : affixes.isIdentity = true)
    (name : String) : affixes.apply name = name := by
  obtain ⟨removePrefix, removeSuffix, addPrefix, addSuffix⟩ := affixes
  simp only [isIdentity, Bool.and_eq_true, beq_iff_eq] at identity
  obtain ⟨⟨⟨rfl, rfl⟩, rfl⟩, rfl⟩ := identity
  simp [apply, stripEnd, stripStart, List.isPrefixOf?]

end Affixes

namespace NameConverter

/-- A name with the affixes of a converter: what it literally begins with is stripped, then what
is left of it literally ends with, and then the new ones are added. -/
def affixed (converter : NameConverter) (name : String) : String :=
  converter.affixes.addPrefix ++
    String.ofList (Affixes.withoutEnd converter.affixes.removeSuffix.toList
      (Affixes.withoutStart converter.affixes.removePrefix.toList name.toList)) ++
    converter.affixes.addSuffix

/-- A name in the case of a converter. The preserving case leaves any name as it is. -/
def recased? (converter : NameConverter) (variant : NameVariant) (name : String) : Option String :=
  if converter.nameCase = .preserving then some name
  else converter.nameCase.convert? variant name

theorem apply_affixes (converter : NameConverter) (name : String) :
    converter.affixes.apply name = converter.affixed name := by
  unfold Affixes.apply affixed
  simp only [Affixes.stripEnd_eq_withoutEnd, Affixes.stripStart_eq_withoutStart]

/-- A name cannot be put in the case of a converter if this converts the case and the name has no
letters and digits. -/
theorem recased?_eq_none_iff {converter : NameConverter} {variant : NameVariant} {name : String} :
    converter.recased? variant name = none ↔
      converter.nameCase ≠ .preserving ∧
        ∀ character ∈ name.toList, character.isAlphanum = false := by
  unfold recased?
  split
  case isTrue preserves => simp [preserves]
  case isFalse recases =>
    rw [NameCase.convert?_eq_none_iff recases, Word.segment_eq_nil_iff, and_iff_right recases]

end NameConverter

namespace Chain

@[simp] theorem run?_nil (name : String) : run? [] name = some name := rfl

theorem run?_append (first second : List Step) (name : String) :
    run? (first ++ second) name = (run? first name).bind (run? second) :=
  List.foldlM_append

/-- Leaving out affixes that change nothing changes nothing. -/
theorem run?_affixSteps (converter : NameConverter) (name : String) :
    run? (affixSteps converter) name = some (converter.affixes.apply name) := by
  unfold affixSteps
  split
  case isTrue identity => rw [run?_nil, Affixes.apply_of_isIdentity identity]
  case isFalse => rfl

theorem run?_recase (nameCase : NameCase) (variant : NameVariant) (name : String) :
    run? [.recase nameCase variant] name = nameCase.convert? variant name :=
  Option.bind_fun_some _

theorem caseSteps_of_preserving {converter : NameConverter}
    (preserves : converter.nameCase = .preserving) (variant : NameVariant) :
    caseSteps converter variant = [] :=
  if_pos preserves

theorem run?_caseSteps {converter : NameConverter} (recases : converter.nameCase ≠ .preserving)
    (variant : NameVariant) (name : String) :
    run? (caseSteps converter variant) name = converter.nameCase.convert? variant name := by
  unfold caseSteps
  rw [if_neg recases]
  exact run?_recase converter.nameCase variant name

/-- Leaving out the preserving case changes nothing either. -/
theorem run?_caseSteps_eq (converter : NameConverter) (variant : NameVariant) :
    run? (caseSteps converter variant) = converter.recased? variant := by
  funext name
  unfold NameConverter.recased?
  split
  case isTrue preserves => rw [caseSteps_of_preserving preserves, run?_nil]
  case isFalse recases => exact run?_caseSteps recases variant name

/-- A layer runs its affixes first. -/
theorem run?_layered (converter : NameConverter) (variant : NameVariant) (parent : Chain)
    (afterward : Bool) (name : String) :
    run? (layered converter variant parent afterward).steps name =
      if afterward then
        (converter.recased? variant (converter.affixes.apply name)).bind (run? parent.steps)
      else
        (run? parent.steps (converter.affixes.apply name)).bind (converter.recased? variant) := by
  unfold layered
  cases afterward <;> simp [run?_append, run?_affixSteps, run?_caseSteps_eq]

/-- A layer that preserves the case runs its affixes and then its parent. -/
theorem run?_layered_of_preserving {converter : NameConverter}
    (preserves : converter.nameCase = .preserving) (variant : NameVariant) (parent : Chain)
    (afterward : Bool) (name : String) :
    run? (layered converter variant parent afterward).steps name =
      run? parent.steps (converter.affixes.apply name) := by
  have kept : converter.recased? variant = some := funext fun _ => if_pos preserves
  rw [run?_layered, kept]
  cases afterward <;> simp

theorem convert_eq_ok_iff {chain : Chain} {raw converted : String} :
    chain.convert raw = .ok converted ↔ run? chain.steps raw = some converted ∧ converted ≠ "" := by
  unfold convert
  grind

/-- The only error is that nothing is left of a name, and it carries the name as it was given. -/
theorem convert_eq_error_iff {chain : Chain} {raw : String} {error : ConverterError} :
    chain.convert raw = .error error ↔
      error = .emptyName raw ∧
        (run? chain.steps raw = none ∨ run? chain.steps raw = some "") := by
  unfold convert
  grind

end Chain

/-- Converters that are layered over each other. -/
inductive Layering where
  /-- No converter at all. -/
  | bare
  /-- One converter. -/
  | single (converter : NameConverter) (variant : NameVariant)
  /-- A converter over a parent, which runs before its case conversion, or afterward. -/
  | layered (converter : NameConverter) (variant : NameVariant) (parent : Layering)
    (afterward : Bool)
deriving Repr

namespace Layering

/-- The chain that the layers become. -/
def chain : Layering → Chain
  | bare => .identity
  | single converter variant => .single converter variant
  | layered converter variant parent afterward =>
    .layered converter variant parent.chain afterward

/-- Converts a name layer by layer. -/
def evaluate? : Layering → String → Option String
  | bare, name => some name
  | single converter variant, name => converter.recased? variant (converter.affixed name)
  | layered converter variant parent true, name => do
    let recased ← converter.recased? variant (converter.affixed name)
    parent.evaluate? recased
  | layered converter variant parent false, name => do
    let inner ← parent.evaluate? (converter.affixed name)
    converter.recased? variant inner

/-- Converting a name reaches a case conversion of one of the layers with a text. -/
inductive Recases : Layering → String → String → Prop
  | single {converter variant name} (recases : converter.nameCase ≠ .preserving) :
      Recases (single converter variant) name (converter.affixed name)
  | first {converter variant parent name} (recases : converter.nameCase ≠ .preserving) :
      Recases (layered converter variant parent true) name (converter.affixed name)
  | parentAfter {converter variant parent name recased text}
      (step : converter.recased? variant (converter.affixed name) = some recased)
      (reached : Recases parent recased text) :
      Recases (layered converter variant parent true) name text
  | parentBefore {converter variant parent name text}
      (reached : Recases parent (converter.affixed name) text) :
      Recases (layered converter variant parent false) name text
  | last {converter variant parent name text}
      (step : parent.evaluate? (converter.affixed name) = some text)
      (recases : converter.nameCase ≠ .preserving) :
      Recases (layered converter variant parent false) name text

/-- The chain does what the layers do. -/
theorem run?_chain (layering : Layering) (name : String) :
    Chain.run? layering.chain.steps name = layering.evaluate? name := by
  induction layering generalizing name with
  | bare => rfl
  | single converter variant =>
    change Chain.run? (Chain.layered converter variant .identity false).steps name = _
    rw [Chain.run?_layered, converter.apply_affixes]
    rfl
  | layered converter variant parent afterward inductionHypothesis =>
    have inner : Chain.run? parent.chain.steps = parent.evaluate? := funext inductionHypothesis
    rw [chain, Chain.run?_layered, converter.apply_affixes, inner]
    cases afterward <;> rfl

theorem bind_eq_none_iff {step : Option String} {next : String → Option String} :
    (step >>= next) = none ↔ step = none ∨ ∃ middle, step = some middle ∧ next middle = none := by
  cases step <;> simp

/-- Layers yield nothing exactly if a case conversion is reached with a text without letters and
digits. -/
theorem evaluate?_eq_none_iff (layering : Layering) (name : String) :
    layering.evaluate? name = none ↔
      ∃ text, layering.Recases name text ∧
        ∀ character ∈ text.toList, character.isAlphanum = false := by
  -- For all names at once: a parent gets what the layer above it makes of the name.
  induction layering generalizing name with
  | bare =>
    refine iff_of_false (Option.some_ne_none name) ?_
    rintro ⟨text, reached, -⟩
    cases reached
  | single converter variant =>
    rw [evaluate?, NameConverter.recased?_eq_none_iff]
    constructor
    · rintro ⟨recases, noAlphanum⟩
      exact ⟨_, .single recases, noAlphanum⟩
    · rintro ⟨_, ⟨recases⟩, noAlphanum⟩
      exact ⟨recases, noAlphanum⟩
  | layered converter variant parent afterward inductionHypothesis =>
    cases afterward with
    | true =>
      rw [evaluate?, bind_eq_none_iff, NameConverter.recased?_eq_none_iff]
      simp only [inductionHypothesis]
      constructor
      · rintro (⟨recases, noAlphanum⟩ | ⟨recased, step, text, reached, noAlphanum⟩)
        · exact ⟨_, .first recases, noAlphanum⟩
        · exact ⟨text, .parentAfter step reached, noAlphanum⟩
      · rintro ⟨text, reached, noAlphanum⟩
        cases reached with
        | first recases => exact .inl ⟨recases, noAlphanum⟩
        | parentAfter step reached => exact .inr ⟨_, step, text, reached, noAlphanum⟩
    | false =>
      rw [evaluate?, bind_eq_none_iff, inductionHypothesis]
      simp only [NameConverter.recased?_eq_none_iff]
      constructor
      · rintro (⟨text, reached, noAlphanum⟩ | ⟨inner, step, recases, noAlphanum⟩)
        · exact ⟨text, .parentBefore reached, noAlphanum⟩
        · exact ⟨inner, .last step recases, noAlphanum⟩
      · rintro ⟨text, reached, noAlphanum⟩
        cases reached with
        | parentBefore reached => exact .inl ⟨text, reached, noAlphanum⟩
        | last step recases => exact .inr ⟨text, step, recases, noAlphanum⟩

end Layering

namespace ConverterSet

/-- The layers of the converter that a single file adds. -/
def fileLayering : Option NameConverter → Layering
  | none => .bare
  | some converter => .single converter .preserving

/-- The layers of the shared converter, after which the one of the file runs. -/
def sharedLayering (converters : ConverterSet) (file : Option NameConverter) : Layering :=
  .layered converters.shared .preserving (fileLayering file) true

/-- The layers of one variant. -/
def layering (converters : ConverterSet) (variant : NameVariant) (file : Option NameConverter) :
    Layering :=
  let layer (converter : NameConverter) : Layering :=
    .layered converter variant (converters.sharedLayering file) false
  match variant with
  | .preserving => converters.sharedLayering file
  | .moduleName => layer converters.moduleName
  | .typeConstructor => layer converters.typeName
  | .dataConstructor => layer converters.constructorName
  | .variable => layer converters.variableName

/-- The chains of a configuration are layered converters. -/
theorem chain_layering (converters : ConverterSet) (variant : NameVariant)
    (file : Option NameConverter) :
    (converters.layering variant file).chain = converters.chain variant file := by
  cases variant <;> cases file <;> rfl

end ConverterSet

/-- A chain refines the layers that it was flattened from. It yields what evaluating them layer by
layer yields, unless this is empty; it fails exactly if a case conversion is reached with a text
without letters and digits, or if nothing is left in the end; and it fails with no error but that
nothing is left of the name as it was given. The chains of a configuration are such chains. -/
theorem Layering.chain_refines_layers (layering : Layering) (raw : String) :
    (∀ converted, layering.chain.convert raw = .ok converted ↔
      layering.evaluate? raw = some converted ∧ converted ≠ "") ∧
    (∀ error, layering.chain.convert raw = .error error ↔
      error = .emptyName raw ∧
        ((∃ text, layering.Recases raw text ∧
            ∀ character ∈ text.toList, character.isAlphanum = false) ∨
          layering.evaluate? raw = some "")) ∧
    ∀ (converters : ConverterSet) (variant : NameVariant) (file : Option NameConverter),
      converters.chain variant file = (converters.layering variant file).chain := by
  refine ⟨fun converted => ?_, fun error => ?_, fun converters variant file =>
    (converters.chain_layering variant file).symm⟩
  · rw [Chain.convert_eq_ok_iff, run?_chain]
  · rw [Chain.convert_eq_error_iff, run?_chain, evaluate?_eq_none_iff]

/-- A name of which the first layer leaves nothing is filled again by the parent. -/
example : (Layering.layered { affixes := { removePrefix := "gz" } } .preserving
    (.single { affixes := { addSuffix := "open" } } .preserving) false).chain.convert "gz" =
      .ok "open" := by decide

end ForeignBindings
