/-!
# Scoped names

An identifier of the source, qualified by the struct or enum that encloses it.
Scoped names are the keys of name resolution and are ordered by scope, then by
name, which fixes the order of every report about them.
-/

namespace ForeignBindings

/-- An identifier with its enclosing scope; module level is the empty scope. -/
structure ScopedName where
  scope : String
  name : String
deriving DecidableEq, Repr, Inhabited

namespace ScopedName

/-- A name at module level. -/
def unscoped (name : String) : ScopedName := ⟨"", name⟩

/-- The name alone at module level, and scope and name elsewhere. -/
def display (name : ScopedName) : String :=
  if name.scope = "" then name.name else name.scope ++ "::" ++ name.name

/-- The order by scope, then by name. -/
instance : LE ScopedName where
  le left right := left.scope < right.scope ∨ left.scope = right.scope ∧ left.name ≤ right.name

instance : LT ScopedName where
  lt left right := left.scope < right.scope ∨ left.scope = right.scope ∧ left.name < right.name

instance : DecidableLE ScopedName := fun left right =>
  inferInstanceAs
    (Decidable (left.scope < right.scope ∨ left.scope = right.scope ∧ left.name ≤ right.name))

instance : DecidableLT ScopedName := fun left right =>
  inferInstanceAs
    (Decidable (left.scope < right.scope ∨ left.scope = right.scope ∧ left.name < right.name))

/-- The strict order of scoped names in terms of the orders of their parts. -/
theorem lt_iff {left right : ScopedName} :
    left < right ↔
      left.scope < right.scope ∨ left.scope = right.scope ∧ left.name < right.name :=
  Iff.rfl

/-- Names that precede each other are the same. -/
theorem le_antisymm {left right : ScopedName} (forth : left ≤ right) (back : right ≤ left) :
    left = right := by
  obtain ⟨leftScope, leftName⟩ := left
  obtain ⟨rightScope, rightName⟩ := right
  rcases forth with before | ⟨sameScope, names⟩
  · rcases back with after | ⟨sameScope, _⟩
    · exact absurd after (String.lt_asymm before)
    · exact absurd sameScope.symm (String.ne_of_lt before)
  · rcases back with after | ⟨_, namesBack⟩
    · exact absurd sameScope.symm (String.ne_of_lt after)
    · simp only at sameScope names namesBack
      rw [sameScope, String.le_antisymm names namesBack]

/-- The order goes on from name to name. -/
theorem le_trans {first middle last : ScopedName} (start : first ≤ middle)
    (rest : middle ≤ last) : first ≤ last := by
  rcases start with before | ⟨sameScope, names⟩
  · rcases rest with after | ⟨sameLast, _⟩
    · exact Or.inl (String.lt_trans before after)
    · exact Or.inl (sameLast ▸ before)
  · rcases rest with after | ⟨sameLast, namesLast⟩
    · exact Or.inl (sameScope ▸ after)
    · exact Or.inr ⟨sameScope.trans sameLast, String.le_trans names namesLast⟩

/-- Of two names one precedes the other. -/
theorem le_total (left right : ScopedName) : left ≤ right ∨ right ≤ left := by
  by_cases sameScope : left.scope = right.scope
  · rcases String.le_total left.name right.name with names | names
    · exact Or.inl (Or.inr ⟨sameScope, names⟩)
    · exact Or.inr (Or.inr ⟨sameScope.symm, names⟩)
  · rcases String.le_total left.scope right.scope with scopes | scopes
    · exact Or.inl (Or.inl (Std.lt_of_le_of_ne scopes sameScope))
    · exact Or.inr (Or.inl (Std.lt_of_le_of_ne scopes (Ne.symm sameScope)))

instance : Std.IsLinearOrder ScopedName := by
  apply Std.IsLinearOrder.of_le
  case le_antisymm => exact ⟨fun _ _ => le_antisymm⟩
  case le_trans => exact ⟨le_trans⟩
  case le_total => exact ⟨le_total⟩

instance : Std.LawfulOrderLT ScopedName where
  lt_iff left right := by
    constructor
    · rintro (scopes | ⟨sameScope, names⟩)
      · refine ⟨Or.inl scopes, ?_⟩
        rintro (back | ⟨sameScope, _⟩)
        · exact String.lt_asymm scopes back
        · exact String.ne_of_lt scopes sameScope.symm
      · refine ⟨Or.inr ⟨sameScope, Std.le_of_lt names⟩, ?_⟩
        rintro (back | ⟨_, namesBack⟩)
        · exact String.ne_of_lt back sameScope.symm
        · exact String.not_le.mpr names namesBack
    · rintro ⟨scopes | ⟨sameScope, names⟩, notBack⟩
      · exact Or.inl scopes
      · refine Or.inr ⟨sameScope, String.not_le.mp fun namesBack => ?_⟩
        exact notBack (Or.inr ⟨sameScope.symm, namesBack⟩)

/-- The names in ascending order. -/
def sort (names : List ScopedName) : List ScopedName :=
  names.mergeSort fun left right => left ≤ right

end ScopedName

end ForeignBindings
