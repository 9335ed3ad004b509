import RecordQuery.Proofs.Number.Rounding

/-! Places of numbers in the order of doubles. What is no number lies beyond the infinities, and integers lie where
rounding puts them, in their own order. -/
namespace RecordQuery
set_option autoImplicit false

/-! ## Doubles -/

namespace Binary64

/-- The integer by which doubles are sorted: the zeros are one, and what is no number lies beyond the infinities. -/
def sortKey (x : Binary64) : Int := if x.isNaN then x.totalKey else x.key

/-- Beside a number, what is no number stands on the same side by its pattern as by its key. -/
theorem totalKey_beyond (x y : Binary64) (hx : x.isNaN = true) (hy : y.isNaN = false) :
    (x.totalKey < y.totalKey ∧ x.totalKey < y.key) ∨ (y.totalKey < x.totalKey ∧ y.key < x.totalKey) := by
  simp only [isNaN, decide_eq_true_eq, decide_eq_false_iff_not] at hx hy
  simp only [totalKey, key]
  cases x.negative <;> cases y.negative <;> simp <;> omega

theorem compare_getD_totalCompare (x y : Binary64) :
    (x.compare? y).getD (x.totalCompare y) = compare x.sortKey y.sortKey := by
  rw [compare?, totalCompare, sortKey, sortKey]
  cases hx : x.isNaN <;> cases hy : y.isNaN
  · rfl
  · rcases totalKey_beyond y x hy hx with ⟨htotal, hkey⟩ | ⟨htotal, hkey⟩
    · exact (Int.compare_eq_gt.mpr htotal).trans (Int.compare_eq_gt.mpr hkey).symm
    · exact (Int.compare_eq_lt.mpr htotal).trans (Int.compare_eq_lt.mpr hkey).symm
  · rcases totalKey_beyond x y hx hy with ⟨htotal, hkey⟩ | ⟨htotal, hkey⟩
    · exact (Int.compare_eq_lt.mpr htotal).trans (Int.compare_eq_lt.mpr hkey).symm
    · exact (Int.compare_eq_gt.mpr htotal).trans (Int.compare_eq_gt.mpr hkey).symm
  · rfl

end Binary64

/-! ## Numbers -/

namespace Number

/-- The place of a number among doubles. -/
def place (n : Number) : Int := n.toBinary64.sortKey

theorem toBinary64_of_int (n : Number) (i : Int) (h : n.int? = some i) : n.toBinary64 = Binary64.ofInt i := by
  cases n with
  | signed _ | unsigned _ => rw [← Option.some.inj h]; rfl
  | float _ => exact absurd h nofun

theorem place_of_int (n : Number) (i : Int) (h : n.int? = some i) : n.place = (Binary64.ofInt i).key := by
  rw [place, n.toBinary64_of_int i h, Binary64.sortKey, Binary64.isNaN_ofInt, if_neg Bool.false_ne_true]

theorem place_mono (m n : Number) (i j : Int) (hm : m.int? = some i) (hn : n.int? = some j) (h : i ≤ j) :
    m.place ≤ n.place := by
  rw [place_of_int m i hm, place_of_int n j hn]
  exact Binary64.key_ofInt_mono h

/-- An integer equals a double where it has the double's place. -/
theorem compare?_float_iff (n : Number) (i : Int) (x : Binary64) (h : n.int? = some i) :
    n.compare? (.float x) = some .eq ↔ n.place = x.sortKey := by
  have hplace := place_of_int n i h
  have hcompare : n.compare? (.float x) = (Binary64.ofInt i).compare? x := by
    rw [compare?, h, n.toBinary64_of_int i h]
    rfl
  rw [hcompare, hplace, Binary64.compare?, Binary64.isNaN_ofInt, Bool.false_or, Binary64.sortKey]
  cases hx : x.isNaN with
  | false => simp only [Bool.false_eq_true, if_false, Option.some.injEq, Int.compare_eq_eq]
  | true =>
    simp only [if_true, reduceCtorEq, false_iff]
    rcases Binary64.totalKey_beyond x _ hx (Binary64.isNaN_ofInt i) with ⟨_, hkey⟩ | ⟨_, hkey⟩ <;> omega

end Number

end RecordQuery
