import ForeignBindings.Layout.Words
import ForeignBindings.Proofs.Layout.Alignment

/-!
# What wraps around

In words, a type has the layout that it has with numbers of any size, reduced to 64 bits:
`DataModel.wordLayout?_eq`. Rounding up goes along with the reduction, since the alignments are
powers of two that divide the number of words. So nothing wraps around where the size of the whole
fits in a word.
-/

namespace ForeignBindings

/-! ### Rounding up -/

/-- Rounding up a remainder, where the alignment divides the modulus. -/
theorem alignUp_mod {offset align modulus : Nat} (divides : align ∣ modulus) (large : 1 < align) :
    alignUp (offset % modulus) align % modulus = alignUp offset align % modulus := by
  obtain ⟨factor, rfl⟩ := divides
  have positive : 0 < align := Nat.lt_of_succ_lt large
  have split : offset + align - 1 = offset % (align * factor) + align - 1 +
      align * (factor * (offset / (align * factor))) := by
    have division := Nat.div_add_mod offset (align * factor)
    rw [Nat.mul_assoc] at division
    omega
  have whole : factor * (offset / (align * factor)) * align =
      align * factor * (offset / (align * factor)) := by
    rw [Nat.mul_comm _ align, Nat.mul_assoc]
  unfold alignUp
  rw [if_neg (Nat.not_le.mpr large), if_neg (Nat.not_le.mpr large), split,
    Nat.add_mul_div_left _ _ positive, Nat.add_mul, whole, Nat.add_mul_mod_self_left]

/-- Rounding up divides, and adds one if there is a remainder. -/
theorem alignUp_eq_div {offset align : Nat} (large : 1 < align) :
    alignUp offset align =
      (if offset % align = 0 then offset / align else offset / align + 1) * align := by
  have division := Nat.div_add_mod' offset align
  have remainder := Nat.mod_lt offset (Nat.lt_of_succ_lt large)
  unfold alignUp
  rw [if_neg (Nat.not_le.mpr large)]
  congr 1
  split
  case isTrue even =>
    exact Nat.div_eq_of_lt_le (by omega) (by rw [Nat.add_one_mul]; omega)
  case isFalse uneven =>
    refine Nat.div_eq_of_lt_le ?_ ?_
    · rw [Nat.add_one_mul]
      omega
    · rw [Nat.add_one_mul, Nat.add_one_mul]
      omega

/-- An alignment that divides the number of words, such as any power of two that is a word. -/
structure IsWordAlign (align : Nat) : Prop where
  divides : align ∣ 2 ^ 64
  lt : align < 2 ^ 64

/-- Rounding up in words is rounding up and then reducing. -/
theorem alignUpWord_ofNat {align : Nat} (isAlign : IsWordAlign align) (offset : Nat) :
    alignUpWord (.ofNat offset) (.ofNat align) = .ofNat (alignUp offset align) := by
  have word : (UInt64.ofNat align).toNat = align := by
    rw [UInt64.toNat_ofNat', Nat.mod_eq_of_lt isAlign.lt]
  by_cases large : 1 < align
  case neg =>
    have small : UInt64.ofNat align ≤ 1 := by
      rw [UInt64.le_iff_toNat_le, word]
      exact Nat.not_lt.mp large
    unfold alignUpWord alignUp
    rw [if_pos small, if_pos (Nat.not_lt.mp large)]
  case pos =>
    have notSmall : ¬ UInt64.ofNat align ≤ 1 := by
      rw [UInt64.le_iff_toNat_le, word]
      exact Nat.not_le.mpr large
    have isZero : UInt64.ofNat offset % UInt64.ofNat align = 0 ↔ offset % 2 ^ 64 % align = 0 := by
      rw [← UInt64.toNat_inj, UInt64.toNat_mod, word, UInt64.toNat_ofNat']
      rfl
    rw [← UInt64.toNat_inj, UInt64.toNat_ofNat', ← alignUp_mod isAlign.divides large,
      alignUp_eq_div large]
    unfold alignUpWord
    rw [if_neg notSmall, UInt64.toNat_mul, word]
    simp only [isZero]
    split
    · rw [UInt64.toNat_div, word, UInt64.toNat_ofNat']
    · rw [UInt64.toNat_add, UInt64.toNat_div, word, UInt64.toNat_ofNat', Nat.mod_mul_mod]
      rfl

/-! ### Placements -/

/-- A power of two that is small enough divides the number of words. -/
theorem Layout.Repeats.isWordAlign {layout : Layout} {bound : Nat}
    (repeats : layout.Repeats bound) (small : bound < 2 ^ 64) : IsWordAlign layout.align := by
  have lt := Nat.lt_of_le_of_lt repeats.bounded small
  exact ⟨dvd_of_le_of_isPowerOfTwo repeats.powerOfTwo ⟨64, rfl⟩ (Nat.le_of_lt lt), lt⟩

/-- The greater of two words is that of the greater number. -/
theorem max_ofNat {first second : Nat} (firstLt : first < 2 ^ 64) (secondLt : second < 2 ^ 64) :
    max (UInt64.ofNat first) (UInt64.ofNat second) = .ofNat (max first second) := by
  have le_iff : UInt64.ofNat first ≤ UInt64.ofNat second ↔ first ≤ second := by
    rw [UInt64.le_iff_toNat_le, UInt64.toNat_ofNat', UInt64.toNat_ofNat',
      Nat.mod_eq_of_lt firstLt, Nat.mod_eq_of_lt secondLt]
  rw [Nat.max_def, apply_ite UInt64.ofNat]
  simp only [← le_iff]
  rfl

namespace WordPlacement

variable {fields : List Layout}

/-- Fields are placed in words as they are with numbers of any size, but for what wraps around. -/
theorem offsetsFrom_map_toWords (aligns : ∀ field ∈ fields, IsWordAlign field.align)
    (start : Nat) :
    offsetsFrom (.ofNat start) (fields.map Layout.toWords) =
        (Placement.offsetsFrom start fields).map .ofNat ∧
      endFrom (.ofNat start) (fields.map Layout.toWords) =
        .ofNat (Placement.endFrom start fields) := by
  induction fields generalizing start with
  | nil => exact ⟨rfl, rfl⟩
  | cons field rest inductionHypothesis =>
    obtain ⟨isAlign, others⟩ := List.forall_mem_cons.mp aligns
    obtain ⟨offsets, ends⟩ :=
      inductionHypothesis others (alignUp start field.align + field.size)
    rw [UInt64.ofNat_add] at offsets ends
    simp only [List.map_cons, offsetsFrom, endFrom, Placement.offsetsFrom, Placement.endFrom,
      Layout.toWords, alignUpWord_ofNat isAlign]
    exact ⟨congrArg _ offsets, ends⟩

/-- The greatest alignment of fields is a word. -/
theorem alignOf_map_toWords (aligns : ∀ field ∈ fields, IsWordAlign field.align) :
    alignOf (fields.map Layout.toWords) = .ofNat (Placement.alignOf fields) ∧
      Placement.alignOf fields < 2 ^ 64 := by
  induction fields with
  | nil => exact ⟨rfl, by decide⟩
  | cons field rest inductionHypothesis =>
    obtain ⟨isAlign, others⟩ := List.forall_mem_cons.mp aligns
    obtain ⟨same, lt⟩ := inductionHypothesis others
    refine ⟨?_, Nat.max_lt.mpr ⟨isAlign.lt, lt⟩⟩
    rw [List.map_cons, alignOf, same]
    exact max_ofNat isAlign.lt lt

/-- Laying fields out in words is laying them out and then reducing. -/
theorem natural_map_toWords {bound : Nat} (atLeastOne : 1 ≤ bound) (small : bound < 2 ^ 64)
    (each : ∀ field ∈ fields, field.Repeats bound) :
    natural (fields.map Layout.toWords) = (Placement.natural fields).toWords := by
  have aligns : ∀ field ∈ fields, IsWordAlign field.align := fun field member =>
    (each field member).isWordAlign small
  have whole : IsWordAlign (Placement.alignOf fields) :=
    (Placement.repeats_natural atLeastOne each).isWordAlign small
  obtain ⟨offsets, ends⟩ := offsetsFrom_map_toWords aligns 0
  have start : UInt64.ofNat 0 = 0 := rfl
  rw [start] at offsets ends
  unfold natural
  rw [offsets, ends, (alignOf_map_toWords aligns).1, alignUpWord_ofNat whole]
  rfl

end WordPlacement

/-! ### The search -/

/-- Rules that find in place of each layout its image. The layouts that are found have a property
on which the images of placements rest. -/
structure LayoutRules.FindImages {α β α' β' : Type} (rules : LayoutRules α β)
    (images : LayoutRules α' β') (layoutOf : α → α') (placementOf : β → β')
    (sound : α → Prop) : Prop where
  scalar : ∀ scalar, images.scalar? scalar = (rules.scalar? scalar).map layoutOf ∧
    ∀ layout, rules.scalar? scalar = some layout → sound layout
  pointer : images.pointer = layoutOf rules.pointer ∧ sound rules.pointer
  place : ∀ layouts, (∀ layout ∈ layouts, sound layout) →
    images.place (layouts.map layoutOf) = placementOf (rules.place layouts) ∧
      sound (rules.layout (rules.place layouts))
  layout : ∀ placement, images.layout (placementOf placement) = layoutOf (rules.layout placement)

namespace LayoutRules.FindImages

variable {α β α' β' : Type} {rules : LayoutRules α β} {images : LayoutRules α' β'}
  {layoutOf : α → α'} {placementOf : β → β'} {sound : α → Prop} {tags : NameMap Tag}
  {inProgress : List String}

variable (rules images layoutOf sound tags) in
/-- Both searches for the layout of a type end, and one finds the image of what the other finds. -/
def TypeAlike (inProgress : List String) (type : CType) : Prop :=
  ∃ answer, rules.typeLayout tags type inProgress = some (answer, inProgress) ∧
    images.typeLayout tags type inProgress = some (answer.map layoutOf, inProgress) ∧
    ∀ layout, answer = some layout → sound layout

/-- The searches for the layouts of fields go alike where those for each field do. -/
theorem fieldsAlike {fields : List (Entity CType)}
    (each : ∀ field ∈ fields, TypeAlike rules images layoutOf sound tags inProgress field.type) :
    ∃ answer, rules.fieldLayouts tags fields inProgress = some (answer, inProgress) ∧
      images.fieldLayouts tags fields inProgress =
        some (answer.map fun layouts => layouts.map layoutOf, inProgress) ∧
      ∀ layouts, answer = some layouts → ∀ layout ∈ layouts, sound layout := by
  induction fields with
  | nil =>
    refine ⟨some [], fieldLayouts_nil, fieldLayouts_nil, ?_⟩
    rintro _ ⟨⟩
    exact List.forall_mem_nil _
  | cons field rest inductionHypothesis =>
    obtain ⟨first, others⟩ := List.forall_mem_cons.mp each
    obtain ⟨answer, found, imageFound, isSound⟩ := first
    cases answer with
    | none =>
      exact ⟨none, fieldLayouts_of_none found, fieldLayouts_of_none imageFound, nofun⟩
    | some layout =>
      obtain ⟨layouts, othersFound, othersImageFound, areSound⟩ := inductionHypothesis others
      refine ⟨_, fieldLayouts_cons found othersFound, ?_, ?_⟩
      · rw [fieldLayouts_cons imageFound othersImageFound]
        cases layouts <;> rfl
      · intro all isAll
        obtain ⟨rest, isRest, rfl⟩ := Option.map_eq_some_iff.mp isAll
        exact List.forall_mem_cons.mpr ⟨isSound layout rfl, areSound rest isRest⟩

/-- The searches for the placement of a struct go alike where those for its fields do, once the
struct is in progress. -/
theorem structAlike (findImages : rules.FindImages images layoutOf placementOf sound)
    {name : String} {fields : List (Entity CType)}
    (defined : tags.find? name = some (.structure fields))
    (each : name ∉ inProgress → ∀ field ∈ fields,
      TypeAlike rules images layoutOf sound tags (name :: inProgress) field.type) :
    ∃ answer, rules.structLayout tags name inProgress = some (answer, inProgress) ∧
      images.structLayout tags name inProgress = some (answer.map placementOf, inProgress) ∧
      ∀ placement, answer = some placement → sound (rules.layout placement) := by
  by_cases met : name ∈ inProgress
  · exact ⟨none, structLayout_of_mem defined met, structLayout_of_mem defined met, nofun⟩
  · obtain ⟨layouts, found, imageFound, areSound⟩ := fieldsAlike (each met)
    refine ⟨_, structLayout_of_not_mem defined met found, ?_, ?_⟩
    · rw [structLayout_of_not_mem defined met imageFound]
      cases layouts with
      | none => rfl
      | some layouts =>
        exact congrArg (fun placement => some (some placement, inProgress))
          (findImages.place layouts (areSound layouts rfl)).1
    · intro placement isPlacement
      obtain ⟨placed, isPlaced, rfl⟩ := Option.map_eq_some_iff.mp isPlacement
      exact (findImages.place placed (areSound placed isPlaced)).2

/-- The searches for the layout of a type go alike where those for all that they visit next do. -/
theorem typeAlike (findImages : rules.FindImages images layoutOf placementOf sound) {type : CType}
    (next : ∀ laterInProgress later, Visits tags (inProgress, type) (laterInProgress, later) →
      TypeAlike rules images layoutOf sound tags laterInProgress later) :
    TypeAlike rules images layoutOf sound tags inProgress type := by
  cases type with
  | scalar scalar =>
    obtain ⟨same, isSound⟩ := findImages.scalar scalar
    exact ⟨_, typeLayout_scalar scalar, same ▸ typeLayout_scalar scalar, isSound⟩
  | pointer pointee =>
    obtain ⟨same, isSound⟩ := findImages.pointer
    refine ⟨_, typeLayout_pointer pointee, ?_, ?_⟩
    · rw [typeLayout_pointer, same]
      rfl
    · rintro _ ⟨⟩
      exact isSound
  | function result parameters =>
    exact ⟨none, typeLayout_function result parameters, typeLayout_function result parameters,
      nofun⟩
  | named name =>
    cases defined : tags.find? name with
    | none => exact ⟨none, typeLayout_undefined defined, typeLayout_undefined defined, nofun⟩
    | some definition =>
      cases definition with
      | enumeration underlying values =>
        obtain ⟨answer, found, imageFound, isSound⟩ := next _ _ (.enumeration defined)
        exact ⟨answer, (typeLayout_enumeration defined).trans found,
          (typeLayout_enumeration defined).trans imageFound, isSound⟩
      | «structure» fields =>
        obtain ⟨answer, found, imageFound, isSound⟩ := findImages.structAlike defined
          fun fresh field member => next _ _ (.field defined fresh member)
        refine ⟨_, typeLayout_structure defined found, ?_, ?_⟩
        · rw [typeLayout_structure defined imageFound]
          cases answer with
          | none => rfl
          | some placement =>
            exact congrArg (fun layout => some (some layout, inProgress))
              (findImages.layout placement)
        · intro layout isLayout
          obtain ⟨placement, isPlacement, rfl⟩ := Option.map_eq_some_iff.mp isLayout
          exact isSound placement isPlacement

/-- Where no enums go round in a circle, the searches for the layout of a type go alike. The
induction is on what the search visits. -/
theorem typeAlike_of_acyclic (findImages : rules.FindImages images layoutOf placementOf sound)
    (acyclic : NoEnumerationCycle tags) (inProgress : List String) (type : CType) :
    TypeAlike rules images layoutOf sound tags inProgress type := by
  have everywhere : ∀ place : List String × CType,
      TypeAlike rules images layoutOf sound tags place.1 place.2 := by
    intro place
    induction place using acyclic.wellFounded_visits.induction with
    | _ place inductionHypothesis =>
      exact findImages.typeAlike fun _ _ visits => inductionHypothesis _ visits
  exact everywhere (inProgress, type)

/-- So do those for the placement of a struct. -/
theorem structAlike_of_acyclic (findImages : rules.FindImages images layoutOf placementOf sound)
    (acyclic : NoEnumerationCycle tags) (inProgress : List String) (name : String) :
    ∃ answer, rules.structLayout tags name inProgress = some (answer, inProgress) ∧
      images.structLayout tags name inProgress = some (answer.map placementOf, inProgress) := by
  by_cases defined : ∃ fields, tags.find? name = some (.structure fields)
  · obtain ⟨fields, defined⟩ := defined
    obtain ⟨answer, found, imageFound, -⟩ := findImages.structAlike defined
      fun _ field _ => findImages.typeAlike_of_acyclic acyclic _ field.type
    exact ⟨answer, found, imageFound⟩
  · have other : ∀ fields, tags.find? name ≠ some (.structure fields) :=
      fun fields same => defined ⟨fields, same⟩
    exact ⟨none, structLayout_of_not_structure other, structLayout_of_not_structure other⟩

end LayoutRules.FindImages

namespace DataModel

/-- The rules in words find the layouts that are found with numbers of any size, in words. -/
theorem findImages_wordRules (model : DataModel) :
    model.rules.FindImages model.wordRules Layout.toWords Placement.toWords
      fun layout => layout.Repeats model.widestAlign where
  scalar _ := ⟨rfl, fun _ => repeats_scalar⟩
  pointer := ⟨rfl, model.repeats_pointer⟩
  place _ each :=
    have small : model.widestAlign < 2 ^ 64 := by cases model <;> decide
    ⟨WordPlacement.natural_map_toWords model.one_le_widestAlign small each,
      Placement.repeats_natural model.one_le_widestAlign each⟩
  layout _ := rfl

variable {tags : NameMap Tag} (acyclic : NoEnumerationCycle tags)

include acyclic

/-- The layout of a type in words is its layout with numbers of any size, in words. -/
theorem wordLayout?_eq (model : DataModel) (type : CType) :
    model.wordLayout? tags type = (model.layout? tags type).map Layout.toWords := by
  obtain ⟨answer, found, imageFound, -⟩ :=
    model.findImages_wordRules.typeAlike_of_acyclic acyclic [] type
  have answers : (model.typeLayout tags type).Answers [] answer := found
  have wordAnswers : (model.wordTypeLayout tags type).Answers [] (answer.map Layout.toWords) :=
    imageFound
  rw [wordLayout?, layout?, answers.answer?_eq, wordAnswers.answer?_eq]

/-- So is the placement of a struct. -/
theorem wordPlacement?_eq (model : DataModel) (name : String) :
    model.wordPlacement? tags name = (model.placement? tags name).map Placement.toWords := by
  obtain ⟨answer, found, imageFound⟩ :=
    model.findImages_wordRules.structAlike_of_acyclic acyclic [] name
  have answers : (model.structLayout tags name).Answers [] answer := found
  have wordAnswers :
      (model.wordStructLayout tags name).Answers [] (answer.map Placement.toWords) :=
    imageFound
  rw [wordPlacement?, placement?, answers.answer?_eq, wordAnswers.answer?_eq]

end DataModel

end ForeignBindings
