import RecordQuery.Number.Basic

/-! Zeros of one sign. Numeric comparison does not tell the zeros apart, and nothing else; with a plus put in place of
the sign of zero, finite doubles are numerically equal just where they are the same. -/
namespace RecordQuery
set_option autoImplicit false

namespace Binary64

/-! ## Patterns -/

/-- A pattern is a sign above a magnitude. -/
theorem toNat_bits (x : Binary64) : x.bits.toNat = (if x.negative then signBit else 0) + x.magnitude := by
  have hlt : x.bits.toNat < 2 ^ 64 := x.bits.toNat_lt
  rw [magnitude, negative]
  by_cases h : signBit ≤ x.bits.toNat
  · rw [decide_eq_true h, if_pos rfl]
    simp only [signBit] at h ⊢
    omega
  · rw [decide_eq_false h, if_neg Bool.false_ne_true]
    simp only [signBit] at h ⊢
    omega

theorem eq_of_sign_magnitude (x y : Binary64) (hsign : x.negative = y.negative) (h : x.magnitude = y.magnitude) :
    x = y := by
  have hbits : x.bits.toNat = y.bits.toNat := by rw [toNat_bits, toNat_bits, hsign, h]
  cases x
  cases y
  exact congrArg mk (UInt64.toNat.inj hbits)

/-! ## The sign of zero -/

/-- The same number, with a plus for the sign of zero. -/
def canonical (x : Binary64) : Binary64 := if x.isZero then zero else x

@[simp] theorem magnitude_canonical (x : Binary64) : x.canonical.magnitude = x.magnitude := by
  rw [canonical]
  split
  · rename_i h
    rw [eq_of_beq h]
    rfl
  · rfl

@[simp] theorem key_canonical (x : Binary64) : x.canonical.key = x.key := by
  rw [canonical]
  split
  · rename_i h
    have hmagnitude : x.magnitude = 0 := eq_of_beq h
    rw [key, key, hmagnitude]
    cases x.negative <;> rfl
  · rfl

@[simp] theorem isNaN_canonical (x : Binary64) : x.canonical.isNaN = x.isNaN := by
  rw [isNaN, magnitude_canonical, isNaN]

@[simp] theorem isFinite_canonical (x : Binary64) : x.canonical.isFinite = x.isFinite := by
  rw [isFinite, magnitude_canonical, isFinite]

@[simp] theorem canonical_canonical (x : Binary64) : x.canonical.canonical = x.canonical := by
  have hzero : x.canonical.isZero = x.isZero := by rw [isZero, magnitude_canonical, isZero]
  rw [canonical.eq_1 x.canonical, hzero, canonical]
  split <;> rfl

/-- The order tells magnitudes, and signs except that of zero. -/
theorem sign_magnitude_of_key (x y : Binary64) (h : x.key = y.key) :
    x.magnitude = y.magnitude ∧ (x.magnitude = 0 ∨ x.negative = y.negative) := by
  rw [key, key] at h
  cases hx : x.negative <;> cases hy : y.negative <;>
    simp only [hx, hy, if_true, Bool.false_eq_true, if_false] at h <;>
    refine ⟨by omega, ?_⟩
  · exact .inr rfl
  · exact .inl (by omega)
  · exact .inl (by omega)
  · exact .inr rfl

theorem canonical_eq_of_key (x y : Binary64) (h : x.key = y.key) : x.canonical = y.canonical := by
  obtain ⟨hmagnitude, hsign⟩ := sign_magnitude_of_key x y h
  have hzero : x.isZero = y.isZero := by rw [isZero, hmagnitude, isZero]
  rw [canonical, canonical, hzero]
  split
  · rfl
  · rename_i hnonzero
    rcases hsign with hx | hsign
    · rw [isZero, ← hmagnitude, hx] at hnonzero
      exact absurd rfl hnonzero
    · exact eq_of_sign_magnitude x y hsign hmagnitude

/-! ## Comparisons -/

section Comparisons

variable (x y : Binary64)

@[simp] theorem compare?_canonical_left : x.canonical.compare? y = x.compare? y := by
  rw [compare?, isNaN_canonical, key_canonical, compare?]

@[simp] theorem compare?_canonical_right : x.compare? y.canonical = x.compare? y := by
  rw [compare?, isNaN_canonical, key_canonical, compare?]

@[simp] theorem beq_canonical_left : (x.canonical == y) = (x == y) :=
  congrArg (· == some Ordering.eq) (compare?_canonical_left x y)

@[simp] theorem beq_canonical_right : (x == y.canonical) = (x == y) :=
  congrArg (· == some Ordering.eq) (compare?_canonical_right x y)

@[simp] theorem le_canonical_left : x.canonical.le y = x.le y := by
  rw [le, isNaN_canonical, key_canonical, le]

@[simp] theorem le_canonical_right : x.le y.canonical = x.le y := by
  rw [le, isNaN_canonical, key_canonical, le]

theorem min_canonical : x.canonical.min y.canonical = (x.min y).canonical := by
  rw [min, min, isNaN_canonical, lt, isNaN_canonical, isNaN_canonical, key_canonical, key_canonical, ← lt]
  split <;> rfl

theorem max_canonical : x.canonical.max y.canonical = (x.max y).canonical := by
  rw [max, max, isNaN_canonical, lt, isNaN_canonical, isNaN_canonical, key_canonical, key_canonical, ← lt]
  split <;> rfl

theorem not_isNaN_of_isFinite (h : x.isFinite = true) : x.isNaN = false := by
  rw [isFinite, decide_eq_true_eq] at h
  rw [isNaN, decide_eq_false_iff_not]
  omega

theorem beq_iff_canonical (hx : x.isFinite = true) (hy : y.isFinite = true) :
    (x == y) = true ↔ x.canonical = y.canonical := by
  change (x.compare? y == some .eq) = true ↔ _
  rw [compare?, not_isNaN_of_isFinite x hx, not_isNaN_of_isFinite y hy, Bool.or_false, if_neg Bool.false_ne_true,
    beq_iff_eq, Option.some.injEq, Int.compare_eq_eq]
  constructor
  · exact canonical_eq_of_key x y
  · intro h
    rw [← key_canonical x, h, key_canonical]

end Comparisons

end Binary64

/-! ## Numbers of records -/

namespace Number

def canonical : Number → Number
  | signed n => signed n
  | unsigned n => unsigned n
  | float x => float x.canonical

theorem compare?_canonical_left (m n : Number) : m.canonical.compare? n = m.compare? n := by
  cases m with
  | signed _ | unsigned _ => rfl
  | float x => exact x.compare?_canonical_left n.toBinary64

theorem compare?_canonical_right (m n : Number) : m.compare? n.canonical = m.compare? n := by
  cases n with
  | signed _ | unsigned _ => rfl
  | float x => cases m <;> exact Binary64.compare?_canonical_right _ x

end Number

end RecordQuery
