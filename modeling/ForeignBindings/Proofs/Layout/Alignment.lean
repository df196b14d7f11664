import ForeignBindings.Proofs.Layout.Exactness
import ForeignBindings.Proofs.Layout.Placement

/-!
# Alignment at every depth

Every layout that the search finds can be repeated in an array, and every placement keeps
the fields apart and aligned. Both go by induction on `HasLayout`, and so does what follows
from them: a part of a struct, however deep, is aligned in every element of an array of
such structs (`layouts_align_arrays`).
-/

namespace ForeignBindings

namespace DataModel

/-- The greatest alignment of a scalar. -/
def widestAlign : DataModel → Nat
  | lp64 | llp64 => 8
  | ilp32 => 4

theorem one_le_widestAlign (model : DataModel) : 1 ≤ model.widestAlign := by
  cases model <;> decide

/-- Pointers have four or eight bytes. -/
theorem pointerSize_mem (model : DataModel) : model.pointerSize ∈ [1, 2, 4, 8] := by
  cases model <;> decide

/-- Scalars have one, two, four or eight bytes. -/
theorem mem_of_scalarSize? {model : DataModel} {scalar : Scalar} {size : Nat}
    (sized : model.scalarSize? scalar = some size) : size ∈ [1, 2, 4, 8] := by
  have number : ∀ bytes, scalar.width.bytes? = some bytes → bytes ∈ [1, 2, 4, 8] := by
    cases scalar.width <;> simp [Width.bytes?]
  cases family : scalar.family with
  | void => simp [scalarSize?, family] at sized
  | unicodeChar | exact | least | fast =>
    simp only [scalarSize?, family] at sized
    exact number size sized
  | pointerDifference | size =>
    simp only [scalarSize?, family, Option.some.injEq] at sized
    rw [← sized]
    exact model.pointerSize_mem
  | special =>
    simp only [scalarSize?, family] at sized
    split at sized <;> cases sized
    · decide
    · exact model.pointerSize_mem
  | wideChar | long => cases model <;> simp_all [scalarSize?]
  | _ => simp_all [scalarSize?]

/-- The sizes of scalars and pointers, aligned as in a data model, can be repeated. -/
theorem repeats_of_mem (model : DataModel) {size : Nat} (member : size ∈ [1, 2, 4, 8]) :
    (Layout.mk size (model.scalarAlign size)).Repeats model.widestAlign := by
  have powers : ∀ align ∈ [1, 2, 4, 8], align.isPowerOfTwo := by
    intro align isAlign
    simp only [List.mem_cons, List.not_mem_nil, or_false] at isAlign
    rcases isAlign with rfl | rfl | rfl | rfl
    exacts [⟨0, rfl⟩, ⟨1, rfl⟩, ⟨2, rfl⟩, ⟨3, rfl⟩]
  have all : ∀ bytes ∈ [1, 2, 4, 8], model.scalarAlign bytes ∈ [1, 2, 4, 8] ∧
      model.scalarAlign bytes ≤ model.widestAlign ∧ model.scalarAlign bytes ∣ bytes := by
    cases model <;> decide
  obtain ⟨isAlign, bounded, divides⟩ := all size member
  exact ⟨powers _ isAlign, bounded, divides⟩

/-- Scalars can be repeated. -/
theorem repeats_scalar {model : DataModel} {scalar : Scalar} {layout : Layout}
    (sized : model.scalar? scalar = some layout) : layout.Repeats model.widestAlign := by
  obtain ⟨size, found, rfl⟩ := Option.map_eq_some_iff.mp sized
  exact model.repeats_of_mem (mem_of_scalarSize? found)

/-- Pointers can be repeated. -/
theorem repeats_pointer (model : DataModel) : model.pointer.Repeats model.widestAlign := by
  have same : model.pointer = ⟨model.pointerSize, model.scalarAlign model.pointerSize⟩ := by
    cases model <;> rfl
  rw [same]
  exact model.repeats_of_mem model.pointerSize_mem

end DataModel

section Derived

variable {model : DataModel} {tags : NameMap Tag}

mutual

/-- Every layout that a type has can be repeated. -/
theorem HasLayout.repeats {type : CType} {layout : Layout} :
    HasLayout model tags type layout → layout.Repeats model.widestAlign
  | .scalar sized => DataModel.repeats_scalar sized
  | .pointer _ => model.repeats_pointer
  | .enumeration _ has => has.repeats
  | .structure _ all => Placement.repeats_natural model.one_le_widestAlign all.repeats

/-- The layouts of fields can be repeated. -/
theorem HaveLayouts.repeats {fields : List (Entity CType)} {layouts : List Layout} :
    HaveLayouts model tags fields layouts → ∀ layout ∈ layouts,
      layout.Repeats model.widestAlign
  | .nil => nofun
  | .cons first others => List.forall_mem_cons.mpr ⟨first.repeats, others.repeats⟩

end

/-- The layouts of fields are those of their types. -/
theorem HaveLayouts.map_layout? (acyclic : NoEnumerationCycle tags)
    {fields : List (Entity CType)} {layouts : List Layout}
    (all : HaveLayouts model tags fields layouts) :
    fields.map (fun field => model.layout? tags field.type) = layouts.map some := by
  induction fields generalizing layouts with
  | nil =>
    cases all
    rfl
  | cons field rest inductionHypothesis =>
    cases all with
    | cons first others =>
      simp only [List.map_cons]
      rw [(DataModel.layout?_eq_some_iff acyclic).mpr first, inductionHypothesis others]

/-- A natural placement of fields keeps them apart and aligned. -/
theorem HaveLayouts.separates {fields : List (Entity CType)} {layouts : List Layout}
    (all : HaveLayouts model tags fields layouts) :
    (Placement.natural layouts).Separates layouts :=
  Placement.separates_natural fun layout member => (all.repeats layout member).powerOfTwo

/-- A field that is in the list has its layout in the same place. -/
theorem HaveLayouts.of_getElem? {fields : List (Entity CType)} {layouts : List Layout}
    {index : Nat} {field : Entity CType} (all : HaveLayouts model tags fields layouts)
    (isField : fields[index]? = some field) :
    ∃ layout, layouts[index]? = some layout ∧ HasLayout model tags field.type layout := by
  induction fields generalizing layouts index with
  | nil => simp at isField
  | cons other rest inductionHypothesis =>
    cases all with
    | cons first others =>
      cases index with
      | zero =>
        cases isField
        exact ⟨_, rfl, first⟩
      | succ before =>
        rw [List.getElem?_cons_succ] at isField
        obtain ⟨layout, isLayout, has⟩ := inductionHypothesis others isField
        exact ⟨layout, isLayout, has⟩

end Derived

section Parts

variable (model : DataModel) (tags : NameMap Tag)

/-- What lies at an offset in every value of a type: the type itself at the start, and what
lies in the integer type of an enum or in a field of a struct, at any depth. -/
inductive HasPart : CType → Nat → CType → Prop
  | whole (type) : HasPart type 0 type
  | enumeration {name underlying values offset part}
      (defined : tags.find? name = some (.enumeration underlying values))
      (inside : HasPart underlying offset part) : HasPart (.named name) offset part
  | field {name placement offset part} {fields : List (Entity CType)} {field : Entity CType}
      {index start : Nat}
      (defined : tags.find? name = some (.structure fields))
      (placed : model.placement? tags name = some placement)
      (isField : fields[index]? = some field)
      (starts : placement.offsets[index]? = some start)
      (inside : HasPart field.type offset part) : HasPart (.named name) (start + offset) part

variable {model tags}

/-- A part lies within the type, at a multiple of its own alignment, and the type is aligned
for it. -/
theorem HasPart.fits (acyclic : NoEnumerationCycle tags) {type part : CType} {offset : Nat}
    {layout : Layout} (isPart : HasPart model tags type offset part)
    (has : HasLayout model tags type layout) :
    ∃ inner, HasLayout model tags part inner ∧ inner.align ∣ offset ∧
      inner.align ∣ layout.align ∧ offset + inner.size ≤ layout.size := by
  induction isPart generalizing layout with
  | whole type =>
    exact ⟨layout, has, Nat.dvd_zero layout.align, Nat.dvd_refl layout.align, by simp⟩
  | enumeration defined _ inductionHypothesis =>
    cases has with
    | enumeration alsoDefined has =>
      cases defined.symm.trans alsoDefined
      exact inductionHypothesis has
    | «structure» alsoDefined all => cases defined.symm.trans alsoDefined
  | field defined placed isField starts _ inductionHypothesis =>
    cases has with
    | enumeration alsoDefined has => cases defined.symm.trans alsoDefined
    | «structure» alsoDefined all =>
      cases defined.symm.trans alsoDefined
      have same := (DataModel.placement?_eq_some_iff acyclic).mpr (.natural defined all)
      cases placed.symm.trans same
      obtain ⟨outer, isLayout, hasField⟩ := all.of_getElem? isField
      obtain ⟨alignedField, alignedStruct⟩ := all.separates.aligned _ _ _ starts isLayout
      have fieldWithin := all.separates.within _ _ _ starts isLayout
      obtain ⟨inner, hasInner, alignedInside, alignedOuter, insideWithin⟩ :=
        inductionHypothesis hasField
      refine ⟨inner, hasInner, ?_, alignedOuter.trans alignedStruct, ?_⟩
      · exact Nat.dvd_add (alignedOuter.trans alignedField) alignedInside
      · change _ ≤ (Placement.natural _).size
        omega

/-- What is aligned in a layout that can be repeated is aligned in every element of an array
that starts at a multiple of the alignment. -/
theorem Layout.Repeats.dvd_element {layout : Layout} {bound align offset base : Nat}
    (repeats : layout.Repeats bound) (inside : align ∣ offset) (outside : align ∣ layout.align)
    (start : layout.align ∣ base) (count : Nat) : align ∣ base + count * layout.size + offset := by
  have element : layout.align ∣ base + count * layout.size :=
    Nat.dvd_add start (repeats.divides.mul_left count)
  exact Nat.dvd_add (outside.trans element) inside

end Parts

namespace DataModel

/-- What is found, whichever structs are in progress, is what the rules derive. -/
theorem hasLayout_of_run {model : DataModel} {tags : NameMap Tag}
    (acyclic : NoEnumerationCycle tags) {inProgress after : List String} {type : CType}
    {layout : Layout}
    (found : (model.typeLayout tags type).run inProgress = some (some layout, after)) :
    HasLayout model tags type layout := by
  obtain ⟨answer, answers, agrees⟩ := typeSettles_of_acyclic model acyclic inProgress type
  have same := answers.symm.trans found
  exact agrees.sound layout (Prod.mk.inj (Option.some.inj same)).1

/-- What is found for a struct, whichever structs are in progress, is what the rules derive. -/
theorem hasPlacement_of_run {model : DataModel} {tags : NameMap Tag}
    (acyclic : NoEnumerationCycle tags) {inProgress after : List String} {name : String}
    {placement : Placement}
    (found : (model.structLayout tags name).run inProgress = some (some placement, after)) :
    HasPlacement model tags name placement := by
  obtain ⟨answer, answers, agrees⟩ := structSettles_of_acyclic model acyclic inProgress name
  have same := answers.symm.trans found
  exact agrees.sound placement (Prod.mk.inj (Option.some.inj same)).1

/-- Layouts are sound for arrays and for nesting. Whichever structs are in progress, a layout
that is found has a power of two as its alignment, at most the widest of the data model, and
a multiple of it as its size. A placement that is found has an offset for each field, keeps
the fields apart and aligned, and ends behind the last of them. In an array of the struct
each part of each element, at any depth, is aligned and lies within the element. -/
theorem layouts_align_arrays (model : DataModel) (tags : NameMap Tag)
    (acyclic : NoEnumerationCycle tags) :
    (∀ inProgress after type layout,
      (model.typeLayout tags type).run inProgress = some (some layout, after) →
        layout.Repeats model.widestAlign) ∧
    (∀ inProgress after name placement,
      (model.structLayout tags name).run inProgress = some (some placement, after) →
        placement.layout.Repeats model.widestAlign ∧
        ∃ fields layouts, tags.find? name = some (.structure fields) ∧
          fields.map (fun field => model.layout? tags field.type) = layouts.map some ∧
          placement.Separates layouts ∧
          ∀ offset part, HasPart model tags (.named name) offset part →
            ∃ inner, model.layout? tags part = some inner ∧
              offset + inner.size ≤ placement.size ∧
              ∀ base count, placement.align ∣ base →
                inner.align ∣ base + count * placement.size + offset) := by
  refine ⟨?types, ?structs⟩
  case types =>
    intro inProgress after type layout found
    exact (hasLayout_of_run acyclic found).repeats
  case structs =>
    intro inProgress after name placement found
    have has := hasPlacement_of_run acyclic found
    have repeats := has.hasLayout.repeats
    cases has with
    | natural defined all =>
      refine ⟨repeats, _, _, defined, all.map_layout? acyclic, all.separates, ?_⟩
      intro offset part isPart
      obtain ⟨inner, hasInner, inside, outside, within⟩ :=
        isPart.fits acyclic (.structure defined all)
      refine ⟨inner, (layout?_eq_some_iff acyclic).mpr hasInner, within, ?_⟩
      intro base count start
      exact repeats.dvd_element inside outside start count

/-- What the rules derive for a struct is found with no struct in progress. -/
theorem run_structLayout {model : DataModel} {tags : NameMap Tag}
    (acyclic : NoEnumerationCycle tags) {name : String} {placement : Placement}
    (has : HasPlacement model tags name placement) :
    (model.structLayout tags name).run [] = some (some placement, []) := by
  obtain ⟨answer, answers, agrees⟩ := structSettles_of_acyclic model acyclic [] name
  rw [← agrees.complete placement (avoids_nil (.named name)) has]
  exact answers

/-- The fields of a pixel: its opacity, its colour and its weight. -/
def pixelFields : List (Entity CType) :=
  [⟨"alpha", .scalar .plainChar⟩, ⟨"colour", .named "colour"⟩,
    ⟨"weight", .scalar ⟨.unspecified, .double, .unsized⟩⟩]

/-- The fields of a sprite: whether it is shown, and its pixel. -/
def spriteFields : List (Entity CType) :=
  [⟨"visible", .scalar ⟨.unspecified, .bool, .unsized⟩⟩, ⟨"pixel", .named "pixel"⟩]

/-- A sprite contains a pixel, which contains an enum. -/
def spriteTags : NameMap Tag :=
  .ofList [("colour", .enumeration (.scalar ⟨.unsigned, .int, .unsized⟩) []),
    ("pixel", .structure pixelFields), ("sprite", .structure spriteFields)]

theorem find?_colour_spriteTags :
    spriteTags.find? "colour" = some (.enumeration (.scalar ⟨.unsigned, .int, .unsized⟩) []) := by
  decide

theorem find?_pixel_spriteTags : spriteTags.find? "pixel" = some (.structure pixelFields) := by
  decide

theorem find?_sprite_spriteTags : spriteTags.find? "sprite" = some (.structure spriteFields) := by
  decide

theorem noEnumerationCycle_spriteTags : NoEnumerationCycle spriteTags :=
  noEnumerationCycle_of_entries (by decide)

theorem hasPlacement_pixel : HasPlacement .lp64 spriteTags "pixel" ⟨[0, 4, 8], 16, 8⟩ := by
  have all : HaveLayouts .lp64 spriteTags pixelFields [⟨1, 1⟩, ⟨4, 4⟩, ⟨8, 8⟩] :=
    .cons (.scalar rfl) (.cons (.enumeration find?_colour_spriteTags (.scalar rfl))
      (.cons (.scalar rfl) .nil))
  exact .natural find?_pixel_spriteTags all

theorem hasPlacement_sprite : HasPlacement .lp64 spriteTags "sprite" ⟨[0, 8], 24, 8⟩ := by
  have all : HaveLayouts .lp64 spriteTags spriteFields [⟨1, 1⟩, ⟨16, 8⟩] :=
    .cons (.scalar rfl) (.cons hasPlacement_pixel.hasLayout .nil)
  exact .natural find?_sprite_spriteTags all

/-- The colour of the pixel lies twelve bytes behind the start of a sprite. -/
theorem hasPart_sprite : HasPart .lp64 spriteTags (.named "sprite") 12
    (.scalar ⟨.unsigned, .int, .unsized⟩) := by
  have placed {name placement} (has : HasPlacement .lp64 spriteTags name placement) :=
    (placement?_eq_some_iff noEnumerationCycle_spriteTags).mpr has
  have isColour : pixelFields[1]? = some ⟨"colour", .named "colour"⟩ := rfl
  have isPixel : spriteFields[1]? = some ⟨"pixel", .named "pixel"⟩ := rfl
  have colour : HasPart .lp64 spriteTags (.named "pixel") 4
      (.scalar ⟨.unsigned, .int, .unsized⟩) :=
    .field find?_pixel_spriteTags (placed hasPlacement_pixel) isColour rfl
      (.enumeration find?_colour_spriteTags (.whole _))
  exact .field find?_sprite_spriteTags (placed hasPlacement_sprite) isPixel rfl colour

/-- In an array of sprites every colour is aligned to four bytes. -/
theorem colours_of_sprites_aligned : NoEnumerationCycle spriteTags ∧
    (DataModel.lp64.structLayout spriteTags "sprite").run [] = some (some ⟨[0, 8], 24, 8⟩, []) ∧
    ∀ count, 4 ∣ 4096 + count * 24 + 12 := by
  have found := run_structLayout noEnumerationCycle_spriteTags hasPlacement_sprite
  refine ⟨noEnumerationCycle_spriteTags, found, fun count => ?_⟩
  obtain ⟨-, structs⟩ := layouts_align_arrays .lp64 spriteTags noEnumerationCycle_spriteTags
  obtain ⟨-, _, _, -, -, -, parts⟩ := structs [] [] "sprite" _ found
  obtain ⟨inner, hasLayout, -, aligned⟩ := parts 12 _ hasPart_sprite
  have int : inner = ⟨4, 4⟩ := by
    have has := (layout?_eq_some_iff noEnumerationCycle_spriteTags).mp hasLayout
    cases has with
    | scalar sized => exact (Option.some.inj sized).symm
  rw [int] at aligned
  exact aligned 4096 count ⟨512, rfl⟩

end DataModel

end ForeignBindings
