import RecordQuery.Proofs.Number.Canonical

/-! Bounds of doubles. Among what is a number the comparison is that of integer keys, and the smaller and the larger of
two numbers are those with the smaller and the larger key. -/
namespace RecordQuery.Binary64
set_option autoImplicit false

variable {x y z : Binary64}

theorem le_eq_true : x.le y = true ↔ x.isNaN = false ∧ y.isNaN = false ∧ x.key ≤ y.key := by
  simp [le, and_assoc]

theorem le_self (h : x.isNaN = false) : x.le x = true := le_eq_true.mpr ⟨h, h, Int.le_refl _⟩

theorem compare?_self (h : x.isNaN = false) : x.compare? x = some .eq := by
  rw [compare?, h, Bool.or_self, if_neg Bool.false_ne_true, Int.compare_eq_eq.mpr rfl]

theorem beq_self (h : x.isNaN = false) : (x == x) = true := congrArg (· == some Ordering.eq) (compare?_self h)

theorem min_spec (hx : x.isNaN = false) (hy : y.isNaN = false) :
    (x.min y).isNaN = false ∧ (x.min y).key = Min.min x.key y.key := by
  have hlt : y.lt x = decide (y.key < x.key) := by simp [lt, hx, hy]
  rw [min, hx, hlt, Bool.false_or]
  by_cases h : y.key < x.key
  · rw [if_pos (decide_eq_true h)]
    exact ⟨hy, by omega⟩
  · rw [if_neg (by simpa using h)]
    exact ⟨hx, by omega⟩

theorem max_spec (hx : x.isNaN = false) (hy : y.isNaN = false) :
    (x.max y).isNaN = false ∧ (x.max y).key = Max.max x.key y.key := by
  have hlt : x.lt y = decide (x.key < y.key) := by simp [lt, hx, hy]
  rw [max, hx, hlt, Bool.false_or]
  by_cases h : x.key < y.key
  · rw [if_pos (decide_eq_true h)]
    exact ⟨hy, by omega⟩
  · rw [if_neg (by simpa using h)]
    exact ⟨hx, by omega⟩

theorem le_trans (hxy : x.le y = true) (hyz : y.le z = true) : x.le z = true := by
  obtain ⟨hx, -, hxy⟩ := le_eq_true.mp hxy
  obtain ⟨-, hz, hyz⟩ := le_eq_true.mp hyz
  exact le_eq_true.mpr ⟨hx, hz, Int.le_trans hxy hyz⟩

/-- Numbers are equal where neither is above the other; what is no number is neither. -/
theorem beq_iff_le : (x == y) = true ↔ x.le y = true ∧ y.le x = true := by
  change (x.compare? y == some .eq) = true ↔ _
  rw [compare?, le_eq_true, le_eq_true]
  cases hx : x.isNaN <;> cases hy : y.isNaN <;> simp [Int.le_antisymm_iff]

theorem canonical_eq_of_beq (h : (x == y) = true) : x.canonical = y.canonical := by
  obtain ⟨hxy, hyx⟩ := beq_iff_le.mp h
  exact canonical_eq_of_key x y (Int.le_antisymm (le_eq_true.mp hxy).2.2 (le_eq_true.mp hyx).2.2)

theorem le_min_iff (hx : x.isNaN = false) (hy : y.isNaN = false) :
    z.le (x.min y) = true ↔ z.le x = true ∧ z.le y = true := by
  obtain ⟨hmin, hkey⟩ := min_spec hx hy
  simp only [le_eq_true, hmin, hkey, hx, hy, Int.le_min, true_and]
  exact and_and_left

theorem max_le_iff (hx : x.isNaN = false) (hy : y.isNaN = false) :
    (x.max y).le z = true ↔ x.le z = true ∧ y.le z = true := by
  obtain ⟨hmax, hkey⟩ := max_spec hx hy
  simp only [le_eq_true, hmax, hkey, hx, hy, Int.max_le, true_and]
  exact and_and_left

/-- Bounds in order stay in order when both make room for one number more. -/
theorem min_le_max (h : x.le y = true) (hz : z.isNaN = false) : (x.min z).le (y.max z) = true := by
  obtain ⟨hx, hy, hxy⟩ := le_eq_true.mp h
  obtain ⟨hmin, hlow⟩ := min_spec hx hz
  obtain ⟨hmax, hhigh⟩ := max_spec hy hz
  exact le_eq_true.mpr ⟨hmin, hmax, by omega⟩

end RecordQuery.Binary64
