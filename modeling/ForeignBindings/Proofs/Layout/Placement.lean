import ForeignBindings.Layout
import Mathlib.Order.MinMax

/-!
# Natural placements

Fields that are placed in order lie behind each other, each at a multiple of its
alignment. The alignment of the struct is the greatest of theirs. That it serves all of
them rests on their being powers of two, of which the greater is a multiple of the lesser:
`Placement.separates_natural`.
-/

namespace ForeignBindings

/-- Rounding up does not lower an offset. -/
theorem le_alignUp (offset align : Nat) : offset ≤ alignUp offset align := by
  unfold alignUp
  split
  case isTrue => exact Nat.le_refl offset
  case isFalse large =>
    have remainder := Nat.mod_lt (offset + align - 1) (show 0 < align by omega)
    have division := Nat.div_add_mod' (offset + align - 1) align
    omega

/-- Rounding up gives a multiple of the alignment, where zero counts as one. -/
theorem dvd_alignUp (offset align : Nat) : max 1 align ∣ alignUp offset align := by
  unfold alignUp
  split
  case isTrue small =>
    rw [Nat.max_eq_left small]
    exact Nat.one_dvd offset
  case isFalse large =>
    rw [Nat.max_eq_right (Nat.le_of_not_le large)]
    exact Nat.dvd_mul_left align _

/-- Of two powers of two, the greater is a multiple of the lesser. -/
theorem dvd_of_le_of_isPowerOfTwo {lesser greater : Nat} (first : lesser.isPowerOfTwo)
    (second : greater.isPowerOfTwo) (le : lesser ≤ greater) : lesser ∣ greater := by
  obtain ⟨low, rfl⟩ := first
  obtain ⟨high, rfl⟩ := second
  exact Nat.pow_dvd_pow 2 ((Nat.pow_le_pow_iff_right (by decide)).mp le)

/-- A layout that the elements of an array can have: the size is a multiple of the
alignment, which is a power of two within a bound. -/
structure Layout.Repeats (layout : Layout) (bound : Nat) : Prop where
  powerOfTwo : layout.align.isPowerOfTwo
  bounded : layout.align ≤ bound
  divides : layout.align ∣ layout.size

/-- A placement that keeps fields of the given layouts apart and aligned. -/
structure Placement.Separates (placement : Placement) (layouts : List Layout) : Prop where
  length_offsets : placement.offsets.length = layouts.length
  aligned : ∀ (index offset : Nat) (layout : Layout), placement.offsets[index]? = some offset →
    layouts[index]? = some layout → layout.align ∣ offset ∧ layout.align ∣ placement.align
  apart : ∀ (index offset next : Nat) (layout : Layout), placement.offsets[index]? = some offset →
    layouts[index]? = some layout → placement.offsets[index + 1]? = some next →
      offset + layout.size ≤ next
  within : ∀ (index offset : Nat) (layout : Layout), placement.offsets[index]? = some offset →
    layouts[index]? = some layout → offset + layout.size ≤ placement.size
  divides : placement.align ∣ placement.size

namespace Placement

/-- There is one offset for each field. -/
@[simp] theorem length_offsetsFrom (start : Nat) (fields : List Layout) :
    (offsetsFrom start fields).length = fields.length := by
  induction fields generalizing start with
  | nil => rfl
  | cons field rest inductionHypothesis => simp [offsetsFrom, inductionHypothesis]

/-- Fields end behind their start. -/
theorem le_endFrom (start : Nat) (fields : List Layout) : start ≤ endFrom start fields := by
  induction fields generalizing start with
  | nil => exact Nat.le_refl start
  | cons field rest inductionHypothesis =>
    calc
      start ≤ alignUp start field.align := le_alignUp start field.align
      _ ≤ alignUp start field.align + field.size := Nat.le_add_right _ _
      _ ≤ endFrom start (field :: rest) := inductionHypothesis _

/-- Fields start before their end. -/
theorem offset_le_endFrom {start offset : Nat} {fields : List Layout}
    (placed : offset ∈ offsetsFrom start fields) : offset ≤ endFrom start fields := by
  induction fields generalizing start with
  | nil => exact absurd placed List.not_mem_nil
  | cons field rest inductionHypothesis =>
    rcases List.mem_cons.mp placed with rfl | later
    · exact Nat.le_trans (Nat.le_add_right _ field.size) (le_endFrom _ rest)
    · exact inductionHypothesis later

/-- Fields start within the size of a struct. -/
theorem offset_le_size {fields : List Layout} :
    ∀ offset ∈ (natural fields).offsets, offset ≤ (natural fields).size :=
  fun _ placed => Nat.le_trans (offset_le_endFrom placed) (le_alignUp _ _)

/-- The first offset behind a start is the start, rounded up. -/
theorem le_of_offsetsFrom_zero {start offset : Nat} {fields : List Layout}
    (first : (offsetsFrom start fields)[0]? = some offset) : start ≤ offset := by
  cases fields with
  | nil => simp [offsetsFrom] at first
  | cons field rest =>
    simp only [offsetsFrom, List.getElem?_cons_zero, Option.some.injEq] at first
    rw [← first]
    exact le_alignUp start field.align

/-- A field lies at a multiple of its alignment and ends before the end of all fields. -/
theorem aligned_offsetsFrom {fields : List Layout} {start index offset : Nat} {layout : Layout}
    (placed : (offsetsFrom start fields)[index]? = some offset)
    (isField : fields[index]? = some layout) :
    max 1 layout.align ∣ offset ∧ offset + layout.size ≤ endFrom start fields := by
  induction fields generalizing start index with
  | nil => simp at isField
  | cons field rest inductionHypothesis =>
    cases index with
    | zero =>
      simp only [offsetsFrom, List.getElem?_cons_zero, Option.some.injEq] at placed isField
      subst placed isField
      exact ⟨dvd_alignUp start field.align, le_endFrom _ rest⟩
    | succ before =>
      rw [List.getElem?_cons_succ] at isField
      rw [offsetsFrom, List.getElem?_cons_succ] at placed
      exact inductionHypothesis placed isField

/-- A field ends before the next one starts. -/
theorem apart_offsetsFrom {fields : List Layout} {start index offset next : Nat}
    {layout : Layout} (placed : (offsetsFrom start fields)[index]? = some offset)
    (isField : fields[index]? = some layout)
    (placedNext : (offsetsFrom start fields)[index + 1]? = some next) :
    offset + layout.size ≤ next := by
  induction fields generalizing start index with
  | nil => simp at isField
  | cons field rest inductionHypothesis =>
    rw [offsetsFrom, List.getElem?_cons_succ] at placedNext
    cases index with
    | zero =>
      simp only [offsetsFrom, List.getElem?_cons_zero, Option.some.injEq] at placed isField
      subst placed isField
      exact le_of_offsetsFrom_zero placedNext
    | succ before =>
      rw [List.getElem?_cons_succ] at isField
      rw [offsetsFrom, List.getElem?_cons_succ] at placed
      exact inductionHypothesis placed isField placedNext

/-- The alignment of a struct is that of a field, or one. -/
theorem alignOf_eq_one_or_mem (fields : List Layout) :
    alignOf fields = 1 ∨ alignOf fields ∈ fields.map Layout.align := by
  induction fields with
  | nil => exact .inl rfl
  | cons field rest inductionHypothesis =>
    rcases max_choice field.align (alignOf rest) with first | later
    · exact .inr (by simp [alignOf, first])
    · rw [alignOf, later]
      exact inductionHypothesis.imp_right (List.mem_cons_of_mem _)

/-- No field is more aligned than the struct. -/
theorem align_le_alignOf {fields : List Layout} {field : Layout} (member : field ∈ fields) :
    field.align ≤ alignOf fields := by
  induction fields with
  | nil => cases member
  | cons first rest inductionHypothesis =>
    rcases List.mem_cons.mp member with rfl | member
    · exact Nat.le_max_left _ _
    · exact Nat.le_trans (inductionHypothesis member) (Nat.le_max_right _ _)

/-- A struct has at least the alignment one. -/
theorem one_le_alignOf (fields : List Layout) : 1 ≤ alignOf fields := by
  induction fields with
  | nil => exact Nat.le_refl 1
  | cons field rest inductionHypothesis =>
    exact Nat.le_trans inductionHypothesis (Nat.le_max_right _ _)

/-- The size of a struct is a multiple of its alignment. -/
theorem align_dvd_size_natural (fields : List Layout) :
    (natural fields).align ∣ (natural fields).size := by
  have multiple := dvd_alignUp (endFrom 0 fields) (alignOf fields)
  rwa [Nat.max_eq_right (one_le_alignOf fields)] at multiple

section PowersOfTwo

variable {fields : List Layout} (powers : ∀ field ∈ fields, field.align.isPowerOfTwo)

include powers

/-- The alignment of a struct is a power of two where those of its fields are. -/
theorem isPowerOfTwo_alignOf : (alignOf fields).isPowerOfTwo := by
  rcases alignOf_eq_one_or_mem fields with one | member
  · exact ⟨0, one⟩
  · obtain ⟨field, isField, same⟩ := List.mem_map.mp member
    rw [← same]
    exact powers field isField

/-- A struct is aligned for each of its fields. -/
theorem align_dvd_alignOf {field : Layout} (member : field ∈ fields) :
    field.align ∣ alignOf fields :=
  dvd_of_le_of_isPowerOfTwo (powers field member) (isPowerOfTwo_alignOf powers)
    (align_le_alignOf member)

/-- A natural placement keeps the fields apart and aligned. -/
theorem separates_natural : (natural fields).Separates fields := by
  have padded : endFrom 0 fields ≤ (natural fields).size := le_alignUp _ _
  refine ⟨length_offsetsFrom 0 fields, ?aligned, ?apart, ?within, align_dvd_size_natural fields⟩
  case aligned =>
    intro index offset layout placed isField
    have member := List.mem_of_getElem? isField
    have aligned := (aligned_offsetsFrom placed isField).1
    rw [Nat.max_eq_right (Nat.pos_of_isPowerOfTwo (powers layout member))] at aligned
    exact ⟨aligned, align_dvd_alignOf powers member⟩
  case apart =>
    intro index offset next layout placed isField placedNext
    exact apart_offsetsFrom placed isField placedNext
  case within =>
    intro index offset layout placed isField
    exact (aligned_offsetsFrom placed isField).2.trans padded

end PowersOfTwo

/-- A natural placement can be repeated where the layouts of the fields can. -/
theorem repeats_natural {fields : List Layout} {bound : Nat} (atLeastOne : 1 ≤ bound)
    (each : ∀ field ∈ fields, field.Repeats bound) : (natural fields).layout.Repeats bound := by
  have powers : ∀ field ∈ fields, field.align.isPowerOfTwo := fun field member =>
    (each field member).powerOfTwo
  refine ⟨isPowerOfTwo_alignOf powers, ?_, (separates_natural powers).divides⟩
  change alignOf fields ≤ bound
  rcases alignOf_eq_one_or_mem fields with one | member
  · rw [one]
    exact atLeastOne
  · obtain ⟨field, isField, same⟩ := List.mem_map.mp member
    rw [← same]
    exact (each field isField).bounded

end Placement

end ForeignBindings
