import ForeignBindings.Proofs.Layout.Placement
import Mathlib.Data.List.Forall2
import Mathlib.Order.Bounds.Basic

/-!
# Least placements

The natural placement is the least one: whoever places the same fields in the same order, aligned
and apart, places none of them lower. Alignments are any numbers here, not only powers of two, and
an alignment of zero counts as one. Rounding up gives the least multiple behind an offset, and a
field that lies low leaves no less room for those behind it: `Placement.natural_least_in_order`.
-/

namespace ForeignBindings

/-- No multiple behind an offset is less than the offset, rounded up. -/
theorem alignUp_le {offset align multiple : Nat} (multiplies : max 1 align ∣ multiple)
    (behind : offset ≤ multiple) : alignUp offset align ≤ multiple := by
  unfold alignUp
  split
  case isTrue => exact behind
  case isFalse large =>
    rw [Nat.max_eq_right (Nat.le_of_not_le large)] at multiplies
    obtain ⟨count, rfl⟩ := multiplies
    have positive : 0 < align := by omega
    have few : (offset + align - 1) / align ≤ count := by
      rw [← Nat.lt_succ_iff, Nat.div_lt_iff_lt_mul positive, Nat.succ_mul, Nat.mul_comm count]
      omega
    calc
      (offset + align - 1) / align * align ≤ count * align := Nat.mul_le_mul_right align few
      _ = align * count := Nat.mul_comm count align

/-- Rounding up gives the least multiple of the alignment that is not less than the offset. -/
theorem isLeast_alignUp (offset align : Nat) :
    IsLeast {multiple | max 1 align ∣ multiple ∧ offset ≤ multiple} (alignUp offset align) :=
  ⟨⟨dvd_alignUp offset align, le_alignUp offset align⟩,
    fun _ isMultiple => alignUp_le isMultiple.1 isMultiple.2⟩

namespace Placement

/-- Offsets at which fields can lie: there is one for each field, at a multiple of its alignment,
and each field ends before the next one starts. -/
structure IsInOrder (fields : List Layout) (offsets : List Nat) : Prop where
  length_eq : offsets.length = fields.length
  aligned : ∀ (index offset : Nat) (field : Layout), offsets[index]? = some offset →
    fields[index]? = some field → max 1 field.align ∣ offset
  apart : ∀ (index offset next : Nat) (field : Layout), offsets[index]? = some offset →
    fields[index]? = some field → offsets[index + 1]? = some next → offset + field.size ≤ next

/-- The fields behind the first one are in order, too. -/
theorem IsInOrder.tail {field : Layout} {fields : List Layout} {offset : Nat}
    {offsets : List Nat} (inOrder : IsInOrder (field :: fields) (offset :: offsets)) :
    IsInOrder fields offsets where
  length_eq := Nat.succ.inj inOrder.length_eq
  aligned index := inOrder.aligned (index + 1)
  apart index := inOrder.apart (index + 1)

theorem isInOrder_offsetsFrom (start : Nat) (fields : List Layout) :
    IsInOrder fields (offsetsFrom start fields) where
  length_eq := length_offsetsFrom start fields
  aligned _ _ _ placed isField := (aligned_offsetsFrom placed isField).1
  apart _ _ _ _ := apart_offsetsFrom

/-- Fields that are placed behind a start lie nowhere lower than where rounding up puts them. -/
theorem offsetsFrom_le {fields : List Layout} {offsets : List Nat}
    (inOrder : IsInOrder fields offsets) {start : Nat}
    (behind : ∀ first ∈ offsets.head?, start ≤ first) :
    List.Forall₂ (· ≤ ·) (offsetsFrom start fields) offsets := by
  induction fields generalizing start offsets with
  | nil =>
    rw [List.length_eq_zero_iff.mp inOrder.length_eq]
    exact .nil
  | cons field fields inductionHypothesis =>
    cases offsets with
    | nil => cases inOrder.length_eq
    | cons offset offsets =>
      have low : alignUp start field.align ≤ offset :=
        alignUp_le (inOrder.aligned 0 offset field rfl rfl) (behind offset rfl)
      -- What is left behind the field is no less than what the other placement leaves.
      have behindNext : ∀ next ∈ offsets.head?, alignUp start field.align + field.size ≤ next := by
        intro next isNext
        have apart := inOrder.apart 0 offset next field rfl rfl
          (by rwa [List.getElem?_cons_succ, ← List.head?_eq_getElem?])
        omega
      exact .cons low (inductionHypothesis inOrder.tail behindNext)

/-- Fields that are placed in order end where the last one ends. -/
theorem endFrom_eq {fields : List Layout} {start offset : Nat} {field : Layout}
    (placed : (offsetsFrom start fields).getLast? = some offset)
    (isLast : fields.getLast? = some field) : endFrom start fields = offset + field.size := by
  induction fields generalizing start with
  | nil => cases isLast
  | cons first rest inductionHypothesis =>
    cases rest with
    | nil =>
      cases placed
      cases isLast
      rfl
    | cons second rest => exact inductionHypothesis placed isLast

/-- No fields end at the start, others where the last one ends. -/
theorem endFrom_zero_le_iff (fields : List Layout) (bound : Nat) :
    endFrom 0 fields ≤ bound ↔
      ∀ offset ∈ (offsetsFrom 0 fields).getLast?, ∀ field ∈ fields.getLast?,
        offset + field.size ≤ bound := by
  cases fields with
  | nil => simp [offsetsFrom, endFrom]
  | cons first rest =>
    have isLast := List.getLast?_eq_some_getLast (List.cons_ne_nil first rest)
    have nonempty : offsetsFrom 0 (first :: rest) ≠ [] := List.cons_ne_nil _ _
    have placed := List.getLast?_eq_some_getLast nonempty
    constructor
    · intro ends offset isPlaced field isField
      rw [← endFrom_eq isPlaced isField]
      exact ends
    · intro ends
      rw [endFrom_eq placed isLast]
      exact ends _ placed _ isLast

/-- Natural placement is the least one in order. Its offsets lie in order, and every other sequence
of offsets that does has none below the one of the natural placement for the same field. The struct
is as aligned as its most aligned field, and its size is the least multiple of its alignment behind
the end of the last field, which is zero where there are no fields. -/
theorem natural_least_in_order (fields : List Layout) :
    IsInOrder fields (natural fields).offsets ∧
    (∀ offsets, IsInOrder fields offsets →
      List.Forall₂ (· ≤ ·) (natural fields).offsets offsets) ∧
    IsGreatest {align | align = 1 ∨ ∃ field ∈ fields, field.align = align} (natural fields).align ∧
    IsLeast {size | (natural fields).align ∣ size ∧
      ∀ offset ∈ (natural fields).offsets.getLast?, ∀ field ∈ fields.getLast?,
        offset + field.size ≤ size} (natural fields).size := by
  refine ⟨isInOrder_offsetsFrom 0 fields, ?least, ⟨?isAlignment, ?greatest⟩, ?size⟩
  case least =>
    intro offsets inOrder
    exact offsetsFrom_le inOrder fun _ _ => Nat.zero_le _
  case isAlignment =>
    exact (alignOf_eq_one_or_mem fields).imp_right List.mem_map.mp
  case greatest =>
    rintro align (rfl | ⟨field, member, rfl⟩)
    · exact one_le_alignOf fields
    · exact align_le_alignOf member
  case size =>
    have least := isLeast_alignUp (endFrom 0 fields) (alignOf fields)
    rw [Nat.max_eq_right (one_le_alignOf fields)] at least
    simp only [endFrom_zero_le_iff] at least
    exact least

/-- A field of three bytes at multiples of six and one without an alignment. -/
example : natural [⟨1, 1⟩, ⟨3, 6⟩, ⟨2, 0⟩] = { offsets := [0, 6, 9], size := 12, align := 6 } := by
  decide

end Placement

end ForeignBindings
