import ForeignBindings.Proofs.Name.Layering

/-!
# Initials of converted names

What the checks of a set of converters do, and do not, promise about the first letter of a
converted name. A converter for one kind of identifier that converts the case turns the first
letter or digit of what the affixes leave into the initial, and a digit stays one. A converter
that preserves the case adds the initial in front, where the converters layered under it may
strip it again. `ConverterSet.acceptsInitial_iff` says exactly when the initial is legal.
-/

namespace ForeignBindings

namespace Affixes

/-- Stripping does not reach the first character of the name: the text to strip at the start
is absent, and the one to strip at the end is not all of the name. -/
structure KeepsStart (affixes : Affixes) (name : String) : Prop where
  absent : affixes.removePrefix = "" ∨ ¬ affixes.removePrefix.toList <+: name.toList
  partially : affixes.removeSuffix ≠ name

theorem stripStart_eq_self {start text : List Char} (absent : start = [] ∨ ¬ start <+: text) :
    stripStart start text = text := by
  rw [stripStart_eq_withoutStart]
  unfold withoutStart
  obtain rfl | absent := absent
  · rw [List.length_nil, List.drop_zero, ite_self]
  · exact if_neg absent

/-- What is stripped at the end is nothing or the given end. -/
theorem stripEnd_append (ending text : List Char) :
    stripEnd ending text = text ∨ stripEnd ending text ++ ending = text := by
  rw [stripEnd_eq_withoutEnd]
  unfold withoutEnd
  split
  case isTrue isEnding =>
    obtain ⟨front, rfl⟩ := isEnding
    exact .inr (by simp)
  case isFalse => exact .inl rfl

/-- Affixes that strip nothing at the start and add nothing there keep a legal initial. -/
theorem KeepsStart.acceptsInitial_apply {affixes : Affixes} {name : String}
    (keeps : affixes.KeepsStart name) (addsNothing : affixes.addPrefix = "")
    {variant : NameVariant} (starts : variant.acceptsInitial name = true) :
    variant.acceptsInitial (affixes.apply name) = true := by
  have absent : affixes.removePrefix.toList = [] ∨
      ¬ affixes.removePrefix.toList <+: name.toList :=
    keeps.absent.imp (fun empty => by simp [empty]) id
  have stripped : variant.acceptsInitial
      (String.ofList (stripEnd affixes.removeSuffix.toList name.toList)) = true := by
    obtain same | append := stripEnd_append affixes.removeSuffix.toList name.toList
    · rwa [same, String.ofList_toList]
    · obtain ⟨first, atHead, accepted⟩ := (variant.acceptsInitial_iff_head name).mp starts
      refine (variant.acceptsInitial_iff_head _).mpr ⟨first, ?_, accepted⟩
      have nonempty : stripEnd affixes.removeSuffix.toList name.toList ≠ [] := by
        intro empty
        rw [empty, List.nil_append] at append
        exact keeps.partially (String.toList_inj.mp append)
      rw [← append, List.head?_append_of_ne_nil _ nonempty] at atHead
      rwa [String.toList_ofList]
  unfold apply
  simp only [addsNothing, stripStart_eq_self absent, String.empty_append]
  exact NameVariant.acceptsInitial_append stripped affixes.addSuffix

/-- A legal text added in front supplies the initial. -/
theorem acceptsInitial_apply_of_addPrefix {affixes : Affixes} {variant : NameVariant}
    (legal : variant.acceptsInitial affixes.addPrefix = true) (name : String) :
    variant.acceptsInitial (affixes.apply name) = true :=
  NameVariant.acceptsInitial_append (NameVariant.acceptsInitial_append legal _) _

end Affixes

namespace NameConverter

/-- What the check of a shared converter asks for. -/
theorem sharedError?_eq_none_iff {converter : NameConverter} {label : String} :
    converter.sharedError? label = none ↔
      converter.nameCase = .preserving ∧ converter.affixes.addPrefix = "" := by
  unfold sharedError?
  grind

/-- What the check of a converter for one kind of identifier asks for. -/
theorem error?_eq_none_iff {converter : NameConverter} {label : String} {variant : NameVariant}
    {letterCase : LetterCase} (forced : variant.initial? = some letterCase) :
    converter.error? label variant = none ↔
      converter.nameCase ≠ .preserving ∨
        variant.acceptsInitial converter.affixes.addPrefix = true := by
  unfold error?
  simp [forced, imp_iff_not_or]

end NameConverter

namespace ConverterSet

/-- The converter for one kind of identifier. -/
def forVariant? (converters : ConverterSet) : NameVariant → Option NameConverter
  | .preserving => none
  | .moduleName => some converters.moduleName
  | .typeConstructor => some converters.typeName
  | .dataConstructor => some converters.constructorName
  | .variable => some converters.variableName

/-- The affixes that a file adds. -/
def fileAffixes (file : Option NameConverter) : Affixes :=
  (file.map NameConverter.affixes).getD {}

/-- A name with the affixes of its kind and the shared ones applied, before those of the
file. -/
def sharedName (converters : ConverterSet) (kind : NameConverter) (raw : String) : String :=
  converters.shared.affixes.apply (kind.affixes.apply raw)

/-- A name with all affixes applied. -/
def affixedName (converters : ConverterSet) (kind : NameConverter) (file : Option NameConverter)
    (raw : String) : String :=
  (fileAffixes file).apply (converters.sharedName kind raw)

/-- The shared and the file converter leave the start of the name to its kind. -/
def LeavesStart (converters : ConverterSet) (kind : NameConverter) (file : Option NameConverter)
    (raw : String) : Prop :=
  converters.shared.affixes.KeepsStart (kind.affixes.apply raw) ∧
    (fileAffixes file).KeepsStart (converters.sharedName kind raw)

/-- The ways in which a converted name gets a legal initial. -/
inductive SuppliesInitial (converters : ConverterSet) (variant : NameVariant)
    (kind : NameConverter) (file : Option NameConverter) (raw : String) : Prop where
  /-- Where the case is converted, the first letter or digit is a letter. -/
  | letter (recases : kind.nameCase ≠ .preserving) (first : Char)
      (found : first ∈ (converters.affixedName kind file raw).toList.find? Char.isAlphanum)
      (isLetter : first.isAlpha = true)
  /-- Where it is preserved, the text that the kind adds stays in front. -/
  | addedPrefix (preserves : kind.nameCase = .preserving)
      (leaves : converters.LeavesStart kind file raw)
  /-- The text in front is stripped, and what it uncovers happens to start legally. -/
  | uncovered (preserves : kind.nameCase = .preserving)
      (strips : ¬ converters.LeavesStart kind file raw)
      (starts : variant.acceptsInitial (converters.affixedName kind file raw) = true)

section Checked

variable {converters : ConverterSet} {file : Option NameConverter} {label : String}
  {variant : NameVariant} {kind : NameConverter}

theorem chain_of_forVariant? (kindOf : converters.forVariant? variant = some kind) :
    converters.chain variant file = .layered kind variant (converters.sharedChain file) false := by
  cases variant <;> cases kindOf <;> rfl

/-- A variant with a converter of its own asks for an initial. -/
theorem initial?_of_forVariant? (kindOf : converters.forVariant? variant = some kind) :
    ∃ letterCase, variant.initial? = some letterCase := by
  cases variant <;> cases kindOf <;> exact ⟨_, rfl⟩

/-- There are no errors when every converter passes its own check. -/
theorem errors_eq_nil_iff :
    converters.errors = [] ↔
      converters.shared.sharedError? "all" = none ∧
        converters.moduleName.error? "module" .moduleName = none ∧
        converters.typeName.error? "type" .typeConstructor = none ∧
        converters.constructorName.error? "ctor" .dataConstructor = none ∧
        converters.variableName.error? "var" .variable = none := by
  simp [errors, List.filterMap_eq_nil_iff]

theorem shared_of_errors_eq_nil (valid : converters.errors = []) :
    converters.shared.nameCase = .preserving ∧ converters.shared.affixes.addPrefix = "" :=
  NameConverter.sharedError?_eq_none_iff.mp (errors_eq_nil_iff.mp valid).1

theorem kind_of_errors_eq_nil (valid : converters.errors = [])
    (kindOf : converters.forVariant? variant = some kind) :
    kind.nameCase ≠ .preserving ∨
      variant.acceptsInitial kind.affixes.addPrefix = true := by
  obtain ⟨letterCase, forced⟩ := initial?_of_forVariant? kindOf
  obtain ⟨-, moduleName, typeName, constructorName, variableName⟩ := errors_eq_nil_iff.mp valid
  have passes : ∃ label, kind.error? label variant = none := by
    cases variant <;> cases kindOf
    case moduleName => exact ⟨_, moduleName⟩
    case typeConstructor => exact ⟨_, typeName⟩
    case dataConstructor => exact ⟨_, constructorName⟩
    case «variable» => exact ⟨_, variableName⟩
  obtain ⟨label, passes⟩ := passes
  exact (NameConverter.error?_eq_none_iff forced).mp passes

/-- The affixes of a file that passes the shared check add nothing in front. -/
theorem fileAffixes_addPrefix
    (fileValid : ∀ converter ∈ file, converter.sharedError? label = none) :
    (fileAffixes file).addPrefix = "" := by
  cases file with
  | none => rfl
  | some converter =>
    exact (NameConverter.sharedError?_eq_none_iff.mp (fileValid converter rfl)).2

theorem run?_fileChain
    (fileValid : ∀ converter ∈ file, converter.sharedError? label = none) (name : String) :
    Chain.run? (fileChain file).steps name = some ((fileAffixes file).apply name) := by
  cases file with
  | none => exact congrArg some (Affixes.apply_of_isIdentity rfl name).symm
  | some converter =>
    have preserves := (NameConverter.sharedError?_eq_none_iff.mp (fileValid converter rfl)).1
    exact Chain.run?_layered_of_preserving preserves _ _ _ _

/-- Converters that pass their checks apply the affixes of the kind, the shared ones and those
of the file, and then convert the case for the kind. -/
theorem run?_chain (valid : converters.errors = [])
    (fileValid : ∀ converter ∈ file, converter.sharedError? label = none)
    (kindOf : converters.forVariant? variant = some kind) (raw : String) :
    Chain.run? (converters.chain variant file).steps raw =
      Chain.run? (Chain.caseSteps kind variant) (converters.affixedName kind file raw) := by
  have sharedPreserves := (shared_of_errors_eq_nil valid).1
  rw [chain_of_forVariant? kindOf, Chain.run?_layered, if_neg Bool.false_ne_true, sharedChain,
    Chain.run?_layered_of_preserving sharedPreserves, run?_fileChain fileValid,
    Chain.run?_caseSteps_eq]
  rfl

/-- A name whose start the lower layers leave alone keeps the text that its kind adds. -/
theorem LeavesStart.acceptsInitial {raw : String} (leaves : converters.LeavesStart kind file raw)
    (sharedAdds : converters.shared.affixes.addPrefix = "")
    (fileAdds : (fileAffixes file).addPrefix = "")
    (legal : variant.acceptsInitial kind.affixes.addPrefix = true) :
    variant.acceptsInitial (converters.affixedName kind file raw) = true := by
  have kindStarts := Affixes.acceptsInitial_apply_of_addPrefix legal raw
  have sharedStarts := leaves.1.acceptsInitial_apply sharedAdds kindStarts
  exact leaves.2.acceptsInitial_apply fileAdds sharedStarts

/-- Converters that pass their checks convert a name to one with a legal initial exactly when
the initial is supplied in one of three ways: by a first letter or digit that is a letter,
where the case is converted; by the text that the kind adds, where neither the shared
converter nor that of the file strips it; or by what they uncover. -/
theorem acceptsInitial_iff (valid : converters.errors = [])
    (fileValid : ∀ converter ∈ file, converter.sharedError? label = none)
    (kindOf : converters.forVariant? variant = some kind) {raw converted : String}
    (conversion : (converters.chain variant file).convert raw = .ok converted) :
    variant.acceptsInitial converted = true ↔
      converters.SuppliesInitial variant kind file raw := by
  obtain ⟨letterCase, forced⟩ := initial?_of_forVariant? kindOf
  have run := (Chain.convert_eq_ok_iff.mp conversion).1
  rw [run?_chain valid fileValid kindOf] at run
  by_cases preserves : kind.nameCase = .preserving
  · -- Without a case step the affixes alone make the name.
    rw [Chain.caseSteps_of_preserving preserves, Chain.run?_nil, Option.some.injEq] at run
    subst run
    constructor
    · intro starts
      by_cases leaves : converters.LeavesStart kind file raw
      · exact .addedPrefix preserves leaves
      · exact .uncovered preserves leaves starts
    · rintro (⟨recases, -, -, -⟩ | ⟨-, leaves⟩ | ⟨-, -, starts⟩)
      · exact absurd preserves recases
      · have legal := (kind_of_errors_eq_nil valid kindOf).resolve_left (not_not_intro preserves)
        exact leaves.acceptsInitial (shared_of_errors_eq_nil valid).2
          (fileAffixes_addPrefix fileValid) legal
      · exact starts
  · -- With one the first letter or digit decides, whatever the affixes did before.
    rw [Chain.run?_caseSteps preserves] at run
    rw [NameCase.convert?_acceptsInitial_iff preserves forced run]
    constructor
    · rintro ⟨first, found, isLetter⟩
      exact .letter preserves first found isLetter
    · rintro (⟨-, first, found, isLetter⟩ | ⟨preserving, -⟩ | ⟨preserving, -, -⟩)
      · exact ⟨first, found, isLetter⟩
      · exact absurd preserving preserves
      · exact absurd preserving preserves

end Checked

/-- Under default converters `gzopen` without the `gz` of its file starts with a letter, and
`_3d` does not. -/
theorem initial_of_open_and_3d :
    (({} : ConverterSet).SuppliesInitial .variable { nameCase := .camel }
        (some { affixes := { removePrefix := "gz" } }) "gzopen") ∧
      ¬ ({} : ConverterSet).SuppliesInitial .typeConstructor { nameCase := .camel } none "_3d" := by
  have valid : ({} : ConverterSet).errors = [] := by decide
  constructor
  · have fileValid : ∀ converter ∈ some { affixes := { removePrefix := "gz" } },
        NameConverter.sharedError? converter "zlib.h" = none := by
      rintro converter ⟨⟩
      decide
    have conversion : (({} : ConverterSet).chain .variable
        (some { affixes := { removePrefix := "gz" } })).convert "gzopen" = .ok "open" := rfl
    exact (acceptsInitial_iff valid fileValid rfl conversion).mp (by decide)
  · have noFile : ∀ converter ∈ none, NameConverter.sharedError? converter "" = none := nofun
    have conversion : (({} : ConverterSet).chain .typeConstructor none).convert "_3d" =
        .ok "3d" := rfl
    rw [← acceptsInitial_iff valid noFile rfl conversion]
    decide

/-- Converters under which a type keeps its case and starts with `T_`, while the shared
converter strips this text. -/
def strippingOwnPrefix : ConverterSet where
  shared := { affixes := { removePrefix := "T_" } }
  typeName := { affixes := { addPrefix := "T_" } }

/-- The checks alone promise no legal initial. The converters of an empty configuration pass
them and leave a digit in front; so do converters that strip the text they add. -/
theorem errors_eq_nil_allows_illegal_initial :
    (({} : ConverterSet).errors = [] ∧
        (({} : ConverterSet).chain .typeConstructor none).convert "_3d" = .ok "3d" ∧
        NameVariant.typeConstructor.acceptsInitial "3d" = false) ∧
      (strippingOwnPrefix.errors = [] ∧
        (strippingOwnPrefix.chain .typeConstructor none).convert "point" = .ok "point" ∧
        NameVariant.typeConstructor.acceptsInitial "point" = false) :=
  ⟨⟨by decide, rfl, by decide⟩, by decide, rfl, by decide⟩

end ConverterSet

end ForeignBindings
