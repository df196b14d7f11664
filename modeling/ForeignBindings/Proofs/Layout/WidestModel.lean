import ForeignBindings.Proofs.Layout.LeastPlacement
import ForeignBindings.Proofs.Layout.Words

/-!
# The widest data model

Which types have a layout does not depend on the data model, but how much room they take does.
The model `lp64` is the widest: on any other, a type has at most the size that it has on `lp64`,
and an alignment that divides the one there. Sizes alone would not carry this through a struct,
since an offset that is rounded up to a multiple of more may come to lie lower. It does not where
the one alignment divides the other: `alignUp_le_alignUp`. In words this holds as long as nothing
wraps around on `lp64`, and not otherwise: `DataModel.layouts_fit_in_lp64`.
-/

namespace ForeignBindings

/-- A layout that has room in the place of another, wherever that is aligned. -/
structure Layout.FitsIn (layout other : Layout) : Prop where
  size_le : layout.size ≤ other.size
  align_le : layout.align ≤ other.align
  align_dvd : layout.align ∣ other.align

/-- The same in words. -/
structure WordLayout.FitsIn (layout other : WordLayout) : Prop where
  size_le : layout.size ≤ other.size
  align_le : layout.align ≤ other.align
  align_dvd : layout.align.toNat ∣ other.align.toNat

/-- A number that is less than that of words is kept in a word. -/
theorem toNat_ofNat_of_lt {number : Nat} (fits : number < 2 ^ 64) :
    (UInt64.ofNat number).toNat = number := by
  rw [UInt64.toNat_ofNat', Nat.mod_eq_of_lt fits]

/-- The order of numbers is kept in words if the greater one fits. -/
theorem ofNat_le_ofNat {lesser greater : Nat} (le : lesser ≤ greater) (fits : greater < 2 ^ 64) :
    UInt64.ofNat lesser ≤ UInt64.ofNat greater := by
  rw [UInt64.le_iff_toNat_le, toNat_ofNat_of_lt fits,
    toNat_ofNat_of_lt (Nat.lt_of_le_of_lt le fits)]
  exact le

/-- Numbers that are less than that of words are kept in words. -/
theorem map_toNat_ofNat {numbers : List Nat} (fit : ∀ number ∈ numbers, number < 2 ^ 64) :
    (numbers.map UInt64.ofNat).map UInt64.toNat = numbers := by
  rw [List.map_map]
  exact (List.map_congr_left fun number member => toNat_ofNat_of_lt (fit number member)).trans
    (List.map_id numbers)

/-- The order of numbers is kept in words, one by one. -/
theorem forall₂_ofNat_le {lesser greater : List Nat} (le : List.Forall₂ (· ≤ ·) lesser greater)
    (fit : ∀ number ∈ greater, number < 2 ^ 64) :
    List.Forall₂ (· ≤ ·) (lesser.map UInt64.ofNat) (greater.map UInt64.ofNat) := by
  induction le with
  | nil => exact .nil
  | cons first _ inductionHypothesis =>
    obtain ⟨fits, others⟩ := List.forall_mem_cons.mp fit
    exact .cons (ofNat_le_ofNat first fits) (inductionHypothesis others)

/-- What fits in a layout whose numbers are words also does in words. -/
theorem Layout.FitsIn.toWords {layout other : Layout} (fits : layout.FitsIn other)
    (size : other.size < 2 ^ 64) (align : other.align < 2 ^ 64) :
    layout.toWords.FitsIn other.toWords where
  size_le := ofNat_le_ofNat fits.size_le size
  align_le := ofNat_le_ofNat fits.align_le align
  align_dvd := by
    unfold Layout.toWords
    rw [toNat_ofNat_of_lt align, toNat_ofNat_of_lt (Nat.lt_of_le_of_lt fits.align_le align)]
    exact fits.align_dvd

/-- Rounding up keeps the order of offsets where the one alignment divides the other. -/
theorem alignUp_le_alignUp {offset later lesser greater : Nat}
    (divides : max 1 lesser ∣ max 1 greater) (le : offset ≤ later) :
    alignUp offset lesser ≤ alignUp later greater :=
  alignUp_le (divides.trans (dvd_alignUp later greater)) (le.trans (le_alignUp later greater))

/-- An alignment divides a greater one also where zero counts as one. -/
theorem Layout.FitsIn.max_align_dvd {layout other : Layout} (fits : layout.FitsIn other) :
    max 1 layout.align ∣ max 1 other.align := by
  rcases Nat.eq_zero_or_pos layout.align with zero | positive
  · rw [zero]
    exact Nat.one_dvd _
  · have otherPositive := Nat.lt_of_lt_of_le positive fits.align_le
    rw [Nat.max_eq_right positive, Nat.max_eq_right otherPositive]
    exact fits.align_dvd

/-- What divides an alignment is at most that alignment, unless it is zero. -/
theorem Layout.FitsIn.of_dvd {layout other : Layout} (size_le : layout.size ≤ other.size)
    (divides : layout.align ∣ other.align) (positive : 0 < other.align) : layout.FitsIn other :=
  ⟨size_le, Nat.le_of_dvd positive divides, divides⟩

namespace Placement

variable {fields others : List Layout}

/-- Fields that fit in others lie no higher behind a start that lies no higher, and end no
higher. -/
theorem offsetsFrom_le_offsetsFrom (fit : List.Forall₂ Layout.FitsIn fields others)
    {start later : Nat} (le : start ≤ later) :
    List.Forall₂ (· ≤ ·) (offsetsFrom start fields) (offsetsFrom later others) ∧
      endFrom start fields ≤ endFrom later others := by
  induction fit generalizing start later with
  | nil => exact ⟨.nil, le⟩
  | cons first _ inductionHypothesis =>
    have offset_le := alignUp_le_alignUp first.max_align_dvd le
    obtain ⟨offsets_le, end_le⟩ := inductionHypothesis (Nat.add_le_add offset_le first.size_le)
    exact ⟨.cons offset_le offsets_le, end_le⟩

/-- The alignment of a struct divides that of one whose fields theirs fit in. -/
theorem alignOf_dvd_alignOf (powers : ∀ other ∈ others, other.align.isPowerOfTwo)
    (fit : List.Forall₂ Layout.FitsIn fields others) : alignOf fields ∣ alignOf others := by
  induction fit with
  | nil => exact Nat.dvd_refl 1
  | @cons field other fields others first _ inductionHypothesis =>
    have otherPowers := (List.forall_mem_cons.mp powers).2
    have rest_dvd : alignOf others ∣ alignOf (other :: others) :=
      dvd_of_le_of_isPowerOfTwo (isPowerOfTwo_alignOf otherPowers) (isPowerOfTwo_alignOf powers)
        (Nat.le_max_right _ _)
    rcases max_choice field.align (alignOf fields) with isFirst | isLater
    · rw [alignOf, isFirst]
      exact first.align_dvd.trans (align_dvd_alignOf powers List.mem_cons_self)
    · rw [alignOf, isLater]
      exact (inductionHypothesis otherPowers).trans rest_dvd

/-- A struct fits in one whose fields its fields fit in. -/
theorem layout_natural_fitsIn (powers : ∀ other ∈ others, other.align.isPowerOfTwo)
    (fit : List.Forall₂ Layout.FitsIn fields others) :
    (natural fields).layout.FitsIn (natural others).layout := by
  have divides := alignOf_dvd_alignOf powers fit
  refine .of_dvd ?_ divides (one_le_alignOf others)
  refine alignUp_le_alignUp ?_ (offsetsFrom_le_offsetsFrom fit (Nat.le_refl 0)).2
  rwa [Nat.max_eq_right (one_le_alignOf fields), Nat.max_eq_right (one_le_alignOf others)]

end Placement

namespace DataModel

/-- The size of a scalar divides the one that it has on the widest model. -/
theorem exists_scalarSize?_lp64 {model : DataModel} {scalar : Scalar} {size : Nat}
    (sized : model.scalarSize? scalar = some size) :
    ∃ wide, lp64.scalarSize? scalar = some wide ∧ size ∣ wide := by
  have pointers : model.pointerSize ∣ lp64.pointerSize := by cases model <;> decide
  cases family : scalar.family with
  | void => simp [scalarSize?, family] at sized
  | pointerDifference | size =>
    simp only [scalarSize?, family, Option.some.injEq] at sized ⊢
    exact ⟨_, rfl, sized ▸ pointers⟩
  | special =>
    simp only [scalarSize?, family] at sized ⊢
    by_cases widest : scalar.width = .widest
    · rw [if_pos widest] at sized ⊢
      exact ⟨size, sized, Nat.dvd_refl size⟩
    · rw [if_neg widest] at sized ⊢
      exact ⟨_, rfl, Option.some.inj sized ▸ pointers⟩
  | wideChar | long =>
    simp only [scalarSize?, family] at sized ⊢
    refine ⟨_, rfl, ?_⟩
    cases model <;> cases sized <;> decide
  | _ =>
    simp only [scalarSize?, family] at sized ⊢
    exact ⟨size, sized, Nat.dvd_refl size⟩

/-- A scalar fits in the place that it has on the widest model. -/
theorem scalar_fitsIn {model : DataModel} {scalar : Scalar} {layout : Layout}
    (sized : model.scalar? scalar = some layout) :
    ∃ wide, lp64.scalar? scalar = some wide ∧ layout.FitsIn wide := by
  obtain ⟨size, found, rfl⟩ := Option.map_eq_some_iff.mp sized
  obtain ⟨wide, foundWide, divides⟩ := exists_scalarSize?_lp64 found
  have isWide : lp64.scalar? scalar = some ⟨wide, wide⟩ := by
    rw [scalar?, foundWide]
    rfl
  have positive : 0 < wide := Nat.pos_of_isPowerOfTwo (repeats_scalar isWide).powerOfTwo
  exact ⟨_, isWide, .of_dvd (Nat.le_of_dvd positive divides)
    ((repeats_scalar sized).divides.trans divides) positive⟩

/-- A pointer fits in the place that it has on the widest model. -/
theorem pointer_fitsIn (model : DataModel) : model.pointer.FitsIn lp64.pointer := by
  cases model <;> exact .of_dvd (by decide) (by decide) (by decide)

end DataModel

section Derived

variable {model : DataModel} {tags : NameMap Tag}

mutual

/-- A type fits in the place that it has on the widest model. -/
theorem HasLayout.fitsIn {type : CType} {layout : Layout} :
    HasLayout model tags type layout →
      ∃ wide, HasLayout .lp64 tags type wide ∧ layout.FitsIn wide
  | .scalar sized =>
    have ⟨wide, sizedWide, fits⟩ := DataModel.scalar_fitsIn sized
    ⟨wide, .scalar sizedWide, fits⟩
  | .pointer pointee => ⟨_, .pointer pointee, model.pointer_fitsIn⟩
  | .enumeration defined has =>
    have ⟨wide, hasWide, fits⟩ := has.fitsIn
    ⟨wide, .enumeration defined hasWide, fits⟩
  | .structure defined all =>
    have ⟨_, allWide, fit⟩ := all.fitIn
    ⟨_, .structure defined allWide, Placement.layout_natural_fitsIn
      (fun wide member => (allWide.repeats wide member).powerOfTwo) fit⟩

/-- Fields fit in the places that they have on the widest model. -/
theorem HaveLayouts.fitIn {fields : List (Entity CType)} {layouts : List Layout} :
    HaveLayouts model tags fields layouts →
      ∃ wides, HaveLayouts .lp64 tags fields wides ∧ List.Forall₂ Layout.FitsIn layouts wides
  | .nil => ⟨[], .nil, .nil⟩
  | .cons first others =>
    have ⟨_, firstWide, fits⟩ := first.fitsIn
    have ⟨_, othersWide, fit⟩ := others.fitIn
    ⟨_, .cons firstWide othersWide, .cons fits fit⟩

end

end Derived

namespace DataModel

/-- The fields of a struct lie no higher than on the widest model. -/
theorem HasPlacement.offsets_le {model : DataModel} {tags : NameMap Tag} {name : String}
    {placement : Placement} (has : HasPlacement model tags name placement) :
    ∃ wide, HasPlacement lp64 tags name wide ∧
      List.Forall₂ (· ≤ ·) placement.offsets wide.offsets := by
  cases has with
  | natural defined all =>
    obtain ⟨wides, allWide, fit⟩ := all.fitIn
    exact ⟨_, .natural defined allWide,
      (Placement.offsetsFrom_le_offsetsFrom fit (Nat.le_refl 0)).1⟩

variable {tags : NameMap Tag}

/-- A type that has a layout on one data model has one on each. -/
theorem exists_hasLayout_congr {type : CType} (model other : DataModel) :
    (∃ layout, HasLayout model tags type layout) ↔ ∃ layout, HasLayout other tags type layout :=
  (exists_hasLayout_iff model).trans (exists_hasLayout_iff other).symm

/-- A struct that has a placement on one data model has one on each. -/
theorem exists_hasPlacement_congr {name : String} (model other : DataModel) :
    (∃ placement, HasPlacement model tags name placement) ↔
      ∃ placement, HasPlacement other tags name placement := by
  by_cases defined : ∃ fields, tags.find? name = some (.structure fields)
  · obtain ⟨fields, defined⟩ := defined
    rw [exists_hasPlacement_iff defined, exists_hasPlacement_iff defined]
    exact exists_hasLayout_congr model other
  · refine iff_of_false ?_ ?_
    all_goals
      rintro ⟨_, ⟨isDefined, -⟩⟩
      exact defined ⟨_, isDefined⟩

section Found

variable (acyclic : NoEnumerationCycle tags)

include acyclic

/-- Data models agree on which types have a layout. -/
theorem exists_layout?_iff (type : CType) :
    (∃ model : DataModel, ∃ layout, model.layout? tags type = some layout) ↔
      ∀ model : DataModel, ∃ layout, model.layout? tags type = some layout := by
  simp only [layout?_eq_some_iff acyclic]
  exact ⟨fun ⟨model, has⟩ other => (exists_hasLayout_congr model other).mp has,
    fun all => ⟨lp64, all lp64⟩⟩

/-- Data models agree on which structs have a placement. -/
theorem exists_placement?_iff (name : String) :
    (∃ model : DataModel, ∃ placement, model.placement? tags name = some placement) ↔
      ∀ model : DataModel, ∃ placement, model.placement? tags name = some placement := by
  simp only [placement?_eq_some_iff acyclic]
  exact ⟨fun ⟨model, has⟩ other => (exists_hasPlacement_congr model other).mp has,
    fun all => ⟨lp64, all lp64⟩⟩

/-- The layout that is found fits in the one on the widest model. -/
theorem layout?_fitsIn {model : DataModel} {type : CType} {layout wide : Layout}
    (found : model.layout? tags type = some layout)
    (foundWide : lp64.layout? tags type = some wide) : layout.FitsIn wide := by
  obtain ⟨other, has, fits⟩ := ((layout?_eq_some_iff acyclic).mp found).fitsIn
  cases foundWide.symm.trans ((layout?_eq_some_iff acyclic).mpr has)
  exact fits

/-- The alignment of a layout that is found is a word. -/
theorem align_lt_of_layout? {model : DataModel} {type : CType} {layout : Layout}
    (found : model.layout? tags type = some layout) : layout.align < 2 ^ 64 := by
  have small : model.widestAlign < 2 ^ 64 := by cases model <;> decide
  exact (((layout?_eq_some_iff acyclic).mp found).repeats.isWordAlign small).lt

/-- The offsets that are found lie no higher than on the widest model, and these within the size. -/
theorem placement?_offsets_le {model : DataModel} {name : String} {placement wide : Placement}
    (found : model.placement? tags name = some placement)
    (foundWide : lp64.placement? tags name = some wide) :
    List.Forall₂ (· ≤ ·) placement.offsets wide.offsets ∧
      ∀ offset ∈ wide.offsets, offset ≤ wide.size := by
  obtain ⟨other, has, offsets_le⟩ := ((placement?_eq_some_iff acyclic).mp found).offsets_le
  cases foundWide.symm.trans ((placement?_eq_some_iff acyclic).mpr has)
  refine ⟨offsets_le, ?_⟩
  cases has with
  | natural defined all => exact Placement.offset_le_size

end Found

/-- Data models agree on which types and which structs have a layout, and `lp64` is the widest of
them, as long as nothing wraps around there. In words, a type has the layout that it has with
numbers of any size, reduced to 64 bits. If the size on `lp64` is less than the number of words,
nothing wraps around: on each model the type then has at most the size and the alignment that it
has on `lp64`, its alignment divides the one there, and no field of a struct lies at a higher offset
than there. -/
theorem layouts_fit_in_lp64 (tags : NameMap Tag) (acyclic : NoEnumerationCycle tags) :
    (∀ (model : DataModel) type,
      model.wordLayout? tags type = (model.layout? tags type).map Layout.toWords) ∧
    (∀ (model : DataModel) name,
      model.wordPlacement? tags name = (model.placement? tags name).map Placement.toWords) ∧
    (∀ type, (∃ model : DataModel, ∃ layout, model.wordLayout? tags type = some layout) ↔
      ∀ model : DataModel, ∃ layout, model.wordLayout? tags type = some layout) ∧
    (∀ (model : DataModel) type layout wide exact, model.wordLayout? tags type = some layout →
      lp64.wordLayout? tags type = some wide → lp64.layout? tags type = some exact →
        exact.size < 2 ^ 64 → wide.size.toNat = exact.size ∧ layout.FitsIn wide) ∧
    (∀ name, (∃ model : DataModel, ∃ placement, model.wordPlacement? tags name = some placement) ↔
      ∀ model : DataModel, ∃ placement, model.wordPlacement? tags name = some placement) ∧
    ∀ (model : DataModel) name placement wide exact,
      model.wordPlacement? tags name = some placement →
      lp64.wordPlacement? tags name = some wide → lp64.placement? tags name = some exact →
        exact.size < 2 ^ 64 → wide.offsets.map UInt64.toNat = exact.offsets ∧
          List.Forall₂ (· ≤ ·) placement.offsets wide.offsets := by
  refine ⟨wordLayout?_eq acyclic, wordPlacement?_eq acyclic, ?types, ?layouts, ?structs, ?offsets⟩
  case types =>
    intro type
    simpa [wordLayout?_eq acyclic] using exists_layout?_iff acyclic type
  case structs =>
    intro name
    simpa [wordPlacement?_eq acyclic] using exists_placement?_iff acyclic name
  case layouts =>
    intro model type layout wide exact found foundWide foundExact fits
    rw [wordLayout?_eq acyclic] at found foundWide
    obtain ⟨narrow, foundNarrow, rfl⟩ := Option.map_eq_some_iff.mp found
    rw [foundExact] at foundWide
    obtain rfl := Option.some.inj foundWide
    refine ⟨toNat_ofNat_of_lt fits, ?_⟩
    exact (layout?_fitsIn acyclic foundNarrow foundExact).toWords fits
      (align_lt_of_layout? acyclic foundExact)
  case offsets =>
    intro model name placement wide exact found foundWide foundExact fits
    rw [wordPlacement?_eq acyclic] at found foundWide
    obtain ⟨narrow, foundNarrow, rfl⟩ := Option.map_eq_some_iff.mp found
    rw [foundExact] at foundWide
    obtain rfl := Option.some.inj foundWide
    obtain ⟨offsets_le, within⟩ := placement?_offsets_le acyclic foundNarrow foundExact
    have areWords : ∀ offset ∈ exact.offsets, offset < 2 ^ 64 := fun offset member =>
      Nat.lt_of_le_of_lt (within offset member) fits
    exact ⟨map_toNat_ofNat areWords, forall₂_ofNat_le offsets_le areWords⟩

/-- Where eight bytes are aligned to four, the pixel of a sprite lies lower. -/
theorem hasPlacement_sprite_ilp32 : HasPlacement ilp32 spriteTags "sprite" ⟨[0, 4], 20, 4⟩ := by
  have pixel : HaveLayouts ilp32 spriteTags pixelFields [⟨1, 1⟩, ⟨4, 4⟩, ⟨8, 4⟩] :=
    .cons (.scalar rfl) (.cons (.enumeration find?_colour_spriteTags (.scalar rfl))
      (.cons (.scalar rfl) .nil))
  have sprite : HaveLayouts ilp32 spriteTags spriteFields [⟨1, 1⟩, ⟨16, 4⟩] :=
    .cons (.scalar rfl) (.cons (.structure find?_pixel_spriteTags pixel) .nil)
  exact .natural find?_sprite_spriteTags sprite

/-- A sprite takes 20 bytes on 32 bits and 24 on 64 bits. -/
theorem sprite_fits_in_lp64 : NoEnumerationCycle spriteTags ∧
    lp64.layout? spriteTags (.named "sprite") = some ⟨24, 8⟩ ∧ 24 < 2 ^ 64 ∧
    ilp32.wordLayout? spriteTags (.named "sprite") = some ⟨20, 4⟩ ∧
    lp64.wordLayout? spriteTags (.named "sprite") = some ⟨24, 8⟩ ∧
    WordLayout.FitsIn ⟨20, 4⟩ ⟨24, 8⟩ ∧
    ilp32.wordPlacement? spriteTags "sprite" = some ⟨[0, 4], 20, 4⟩ ∧
    lp64.wordPlacement? spriteTags "sprite" = some ⟨[0, 8], 24, 8⟩ ∧
    List.Forall₂ (· ≤ ·) [(0 : UInt64), 4] [0, 8] := by
  have placed {model placement} (has : HasPlacement model spriteTags "sprite" placement) :=
    (placement?_eq_some_iff noEnumerationCycle_spriteTags).mpr has
  have laidOut {model placement} (has : HasPlacement model spriteTags "sprite" placement) :=
    (layout?_eq_some_iff noEnumerationCycle_spriteTags).mpr has.hasLayout
  obtain ⟨inWords, placedInWords, -, layouts, -, offsets⟩ :=
    layouts_fit_in_lp64 spriteTags noEnumerationCycle_spriteTags
  have narrow : ilp32.wordLayout? spriteTags (.named "sprite") = some ⟨20, 4⟩ := by
    rw [inWords, laidOut hasPlacement_sprite_ilp32]
    rfl
  have wide : lp64.wordLayout? spriteTags (.named "sprite") = some ⟨24, 8⟩ := by
    rw [inWords, laidOut hasPlacement_sprite]
    rfl
  have narrowPlaced : ilp32.wordPlacement? spriteTags "sprite" = some ⟨[0, 4], 20, 4⟩ := by
    rw [placedInWords, placed hasPlacement_sprite_ilp32]
    rfl
  have widePlaced : lp64.wordPlacement? spriteTags "sprite" = some ⟨[0, 8], 24, 8⟩ := by
    rw [placedInWords, placed hasPlacement_sprite]
    rfl
  have small : 24 < 2 ^ 64 := by decide
  have exact24 : lp64.layout? spriteTags (.named "sprite") = some ⟨24, 8⟩ :=
    laidOut hasPlacement_sprite
  exact ⟨noEnumerationCycle_spriteTags, exact24, small, narrow, wide,
    (layouts ilp32 _ _ _ _ narrow wide exact24 small).2, narrowPlaced, widePlaced,
    (offsets ilp32 _ _ _ _ narrowPlaced widePlaced (placed hasPlacement_sprite) small).2⟩

/-! ### Structs that double -/

/-- The name of the struct on a level. -/
def levelName (level : Nat) : String := String.ofList (List.replicate (level + 1) 's')

/-- What the struct on a level has two of: the struct below it, or pointers on the lowest one. -/
def levelPart : Nat → CType
  | 0 => .pointer (.named "")
  | level + 1 => .named (levelName level)

/-- The fields of the struct on a level. -/
def levelFields (level : Nat) : List (Entity CType) :=
  [⟨"left", levelPart level⟩, ⟨"right", levelPart level⟩]

/-- Structs on so many levels, each of which has two of the one below it. -/
def doublingTags : Nat → NameMap Tag
  | 0 => .empty
  | levels + 1 =>
    (doublingTags levels).insert (levelName levels) (.structure (levelFields levels))

theorem levelName_inj {level other : Nat} (same : levelName level = levelName other) :
    level = other := by
  have lengths := congrArg (fun name : String => name.toList.length) same
  simpa [levelName] using lengths

theorem find?_doublingTags {level levels : Nat} (below : level < levels) :
    (doublingTags levels).find? (levelName level) = some (.structure (levelFields level)) := by
  induction levels with
  | zero => exact absurd below (Nat.not_lt_zero level)
  | succ levels inductionHypothesis =>
    rw [doublingTags, OrderedMap.find?_insert]
    by_cases last : level = levels
    · rw [last, if_pos rfl]
    · rw [if_neg fun same => last (levelName_inj same)]
      exact inductionHypothesis (by omega)

/-- There are structs only. -/
theorem noEnumerationCycle_doublingTags (levels : Nat) :
    NoEnumerationCycle (doublingTags levels) := by
  have noEnum : ∀ name underlying values,
      (doublingTags levels).find? name ≠ some (.enumeration underlying values) := by
    intro name underlying values
    induction levels with
    | zero =>
      intro defined
      cases defined
    | succ levels inductionHypothesis =>
      rw [doublingTags, OrderedMap.find?_insert]
      split
      · intro defined
        cases defined
      · exact inductionHypothesis
  exact noEnumerationCycle_of_scalars fun name underlying values defined =>
    absurd defined (noEnum name underlying values)

/-- Two fields of one layout lie side by side. -/
theorem layout_natural_pair {size align : Nat} (positive : 1 ≤ align) (divides : align ∣ size) :
    (Placement.natural [⟨size, align⟩, ⟨size, align⟩]).layout = ⟨2 * size, align⟩ := by
  have keeps {offset : Nat} (isMultiple : align ∣ offset) : alignUp offset align = offset :=
    Nat.le_antisymm (alignUp_le (by rwa [Nat.max_eq_right positive]) (Nat.le_refl offset))
      (le_alignUp offset align)
  have twice : align ∣ size + size := Nat.dvd_add divides divides
  simp [Placement.natural, Placement.layout, Placement.endFrom, Placement.alignOf,
    keeps (Nat.dvd_zero align), keeps divides, keeps twice, Nat.max_eq_left positive, Nat.two_mul]

/-- The struct on a level is twice as large as what it has two of. -/
theorem hasLayout_level_of_part {model : DataModel} {level levels size : Nat}
    (below : level < levels) (divides : model.pointerSize ∣ size)
    (part : HasLayout model (doublingTags levels) (levelPart level) ⟨size, model.pointerSize⟩) :
    HasLayout model (doublingTags levels) (.named (levelName level))
      ⟨2 * size, model.pointerSize⟩ := by
  have positive : 1 ≤ model.pointerSize := by cases model <;> decide
  rw [← layout_natural_pair positive divides]
  exact .structure (find?_doublingTags below) (.cons part (.cons part .nil))

/-- The struct on a level has two pointers for each one on the level below it. -/
theorem hasLayout_level (model : DataModel) {level levels : Nat} (below : level < levels) :
    HasLayout model (doublingTags levels) (.named (levelName level))
      ⟨2 * (2 ^ level * model.pointerSize), model.pointerSize⟩ := by
  induction level with
  | zero => exact hasLayout_level_of_part below (by simp) (by simpa using .pointer _)
  | succ level inductionHypothesis =>
    have twice : 2 ^ (level + 1) * model.pointerSize =
        2 * (2 ^ level * model.pointerSize) := by
      rw [Nat.pow_succ', Nat.mul_assoc]
    rw [twice]
    refine hasLayout_level_of_part below ?_ (inductionHypothesis (Nat.lt_of_succ_lt below))
    exact Nat.dvd_mul_left_of_dvd (Nat.dvd_mul_left _ _) 2

/-- In words `lp64` is not always the widest model: with 61 levels, the size wraps around to zero
there, and half of it is still a word on 32 bits. -/
theorem doubling_wraps_in_lp64 :
    NoEnumerationCycle (doublingTags 61) ∧
      ilp32.wordLayout? (doublingTags 61) (.named (levelName 60)) =
        some ⟨9223372036854775808, 4⟩ ∧
      lp64.wordLayout? (doublingTags 61) (.named (levelName 60)) = some ⟨0, 8⟩ ∧
      ¬ (9223372036854775808 : UInt64) ≤ 0 := by
  have acyclic := noEnumerationCycle_doublingTags 61
  have inWords {model : DataModel} :
      model.wordLayout? (doublingTags 61) (.named (levelName 60)) =
        some (Layout.toWords ⟨2 * (2 ^ 60 * model.pointerSize), model.pointerSize⟩) := by
    have has := hasLayout_level model (show 60 < 61 by decide)
    rw [wordLayout?_eq acyclic, (layout?_eq_some_iff acyclic).mpr has, Option.map_some]
  refine ⟨acyclic, inWords.trans ?_, inWords.trans ?_, by decide⟩
  · exact congrArg some (by decide +kernel)
  · exact congrArg some (by decide +kernel)

end DataModel

end ForeignBindings
