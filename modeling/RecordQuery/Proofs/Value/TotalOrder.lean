import RecordQuery.Proofs.Number.Order
import RecordQuery.Proofs.Value.Order

/-! The order of results among all values. Integers are compared exactly with each other, and as doubles with doubles.
The order of the doubles is the coarser one, so values of any kinds stand in one total preorder unless some double
equals two integers that differ. -/
namespace RecordQuery.Value
set_option autoImplicit false

/-! ## Rounded values -/

/-- The place of a number among doubles; other values have none of their own. -/
def place : Value → Int
  | number n => n.place
  | _ => 0

/-- The order by kind and, among numbers, by the doubles that they round to. -/
def roundedCompare : Value → Value → Ordering := compareLex (compareOn rank) (compareOn place)

instance : Std.TransCmp roundedCompare := inferInstanceAs (Std.TransCmp (compareLex _ _))

theorem roundedCompare_swap (a b : Value) : roundedCompare b a = (roundedCompare a b).swap := Std.OrientedCmp.eq_swap

theorem sortCompare_of_double (a b : Value) (h : (a.isDouble || b.isDouble) = true) :
    sortCompare a b = roundedCompare a b := by
  cases a with
  | number m =>
    cases b with
    | number n =>
      have hcompare : m.compare? n = m.toBinary64.compare? n.toBinary64 := by
        rw [Number.compare?]
        cases m with
        | float _ => rfl
        | signed _ | unsigned _ =>
          cases n with
          | float _ => rfl
          | signed _ | unsigned _ => exact absurd h (by simp [isDouble])
      have hplaces : sortCompare (number m) (number n) = compare m.place n.place := by
        rw [sortCompare, hcompare]
        exact Binary64.compare_getD_totalCompare _ _
      exact hplaces.trans rfl
    | _ => rfl
  | _ =>
    cases b with
    | number n => rfl
    | _ => exact absurd h (by simp [isDouble])

theorem place_of_integerKey (a b : Value) (ha : a.isDouble = false) (hb : b.isDouble = false)
    (hrank : a.rank = b.rank) (h : a.integerKey ≤ b.integerKey) : a.place ≤ b.place := by
  cases a with
  | number m =>
    cases b with
    | number n =>
      have hint : ∀ k : Number, (number k).isDouble = false → k.int? = some (number k).integerKey := by
        intro k hk
        cases k with
        | float _ => exact absurd hk nofun
        | signed _ | unsigned _ => rfl
      exact Number.place_mono m n _ _ (hint m ha) (hint n hb) h
    | _ => simp [rank] at hrank
  | _ =>
    cases b with
    | number n => simp [rank] at hrank
    | _ => exact Int.le_refl 0

/-- What stands in order exactly stands in order when rounded. -/
theorem roundedCompare_of_keyCompare (a b : Value) (ha : a.isDouble = false) (hb : b.isDouble = false)
    (h : (keyCompare a b).isLE) : (roundedCompare a b).isLE := by
  rw [keyCompare, compareLex, Ordering.isLE_then_iff_and] at h
  rw [roundedCompare, compareLex, Ordering.isLE_then_iff_and]
  obtain ⟨hrank, hrest⟩ := h
  refine ⟨hrank, ?_⟩
  rcases hrest with hlt | hrest
  · exact .inl hlt
  · have hinteger := Ordering.isLE_left_of_isLE_then hrest
    simp only [compareOn, Std.isLE_compare] at hrank hinteger ⊢
    rcases Nat.lt_or_eq_of_le hrank with hlt | heq
    · exact .inl (Nat.compare_eq_lt.mpr hlt)
    · exact .inr (place_of_integerKey a b ha hb heq hinteger)

/-! ## The order -/

theorem sortCompare_eq_ite (a b : Value) :
    sortCompare a b = if a.isDouble || b.isDouble then roundedCompare a b else keyCompare a b := by
  split
  · rename_i h
    exact sortCompare_of_double a b h
  · rename_i h
    obtain ⟨ha, hb⟩ := Bool.or_eq_false_iff.mp (Bool.not_eq_true _ ▸ h)
    exact sortCompare_eq_keyCompare a b ha hb

theorem sortCompare_self (a : Value) : sortCompare a a = .eq := by
  rw [sortCompare_eq_ite]
  split <;> exact Std.ReflCmp.compare_self

theorem sortCompare_swap (a b : Value) : sortCompare b a = (sortCompare a b).swap := by
  rw [sortCompare_eq_ite, sortCompare_eq_ite, Bool.or_comm]
  split <;> exact Std.OrientedCmp.eq_swap

theorem roundedCompare_of_sortCompare (a b : Value) (h : (sortCompare a b).isLE) : (roundedCompare a b).isLE := by
  rw [sortCompare_eq_ite] at h
  split at h
  · exact h
  · rename_i hdouble
    obtain ⟨ha, hb⟩ := Bool.or_eq_false_iff.mp (Bool.not_eq_true _ ▸ hdouble)
    exact roundedCompare_of_keyCompare a b ha hb h

theorem sortCompare_of_roundedCompare_lt (a b : Value) (h : roundedCompare a b = .lt) : sortCompare a b = .lt := by
  have hback : (sortCompare b a).isLE = true → False := by
    intro hle
    have := roundedCompare_of_sortCompare b a hle
    rw [roundedCompare_swap, h] at this
    exact absurd this (by decide)
  rw [sortCompare_swap a b] at hback
  cases hcmp : sortCompare a b with
  | lt => rfl
  | eq | gt => exact absurd (by rw [hcmp]; rfl) hback

theorem sortCompare_of_int (m n : Number) (i j : Int) (hm : m.int? = some i) (hn : n.int? = some j) :
    sortCompare (number m) (number n) = compare i j := by
  rw [sortCompare, Number.compare?, hm, hn]
  rfl

/-- What rounding puts in the place of a double, and is none, is an integer that equals it. -/
theorem integer_of_roundedCompare (a d : Value) (ha : a.isDouble = false) (hd : d.isDouble = true)
    (h : roundedCompare a d = .eq) :
    ∃ m i x, a = number m ∧ d = number (.float x) ∧ m.int? = some i ∧ m.compare? (.float x) = some .eq := by
  obtain ⟨hrank, hplace⟩ := compareLex_eq_eq.mp h
  simp only [compareOn, Nat.compare_eq_eq, Int.compare_eq_eq] at hrank hplace
  obtain ⟨x, rfl⟩ : ∃ x, d = number (.float x) := by
    cases d with
    | number n =>
      cases n with
      | float x => exact ⟨x, rfl⟩
      | _ => exact absurd hd nofun
    | _ => exact absurd hd nofun
  cases a with
  | number m =>
    obtain ⟨i, hi⟩ : ∃ i, m.int? = some i := by
      cases m with
      | float _ => exact absurd ha nofun
      | _ => exact ⟨_, rfl⟩
    exact ⟨m, i, x, rfl, rfl, hi, (Number.compare?_float_iff m i x hi).mpr hplace⟩
  | _ => simp [rank] at hrank

/-- No double of a column equals two integers of it that differ. -/
def DiscernsIntegers (P : Value → Prop) : Prop :=
  ∀ (x : Binary64) (m n : Number) (i j : Int), P (number (.float x)) → P (number m) → P (number n) →
    m.int? = some i → n.int? = some j → m.compare? (.float x) = some .eq → n.compare? (.float x) = some .eq → i = j

/-- Integers of at most 53 bits are doubles themselves. -/
theorem discernsIntegers_of_short (P : Value → Prop)
    (h : ∀ n i, P (number n) → n.int? = some i → i.natAbs ≤ 2 * Binary64.fractionLimit) : DiscernsIntegers P := by
  intro x m n i j _ hPm hPn hm hn hmx hnx
  rw [Number.compare?_float_iff m i x hm, Number.place_of_int m i hm] at hmx
  rw [Number.compare?_float_iff n j x hn, Number.place_of_int n j hn] at hnx
  exact Binary64.key_ofInt_inj (h m i hPm hm) (h n j hPn hn) (hmx.trans hnx.symm)

section Column

variable {P : Value → Prop} (hP : DiscernsIntegers P)

include hP

/-- Two values that rounding puts in the place of a double come out equal. -/
theorem sortCompare_eq_of_double (a b d : Value) (ha : P a) (hb : P b) (hd : P d) (hdouble : d.isDouble = true)
    (had : roundedCompare a d = .eq) (hbd : roundedCompare b d = .eq) : sortCompare a b = .eq := by
  have hab : roundedCompare a b = .eq := by
    rw [Std.TransCmp.congr_left had, roundedCompare_swap, hbd]
    rfl
  by_cases hside : (a.isDouble || b.isDouble) = true
  · rw [sortCompare_of_double a b hside, hab]
  · obtain ⟨ha', hb'⟩ := Bool.or_eq_false_iff.mp (Bool.not_eq_true _ ▸ hside)
    obtain ⟨m, i, x, rfl, rfl, hm, hmx⟩ := integer_of_roundedCompare a d ha' hdouble had
    obtain ⟨n, j, y, rfl, hy, hn, hny⟩ := integer_of_roundedCompare b _ hb' hdouble hbd
    obtain rfl : x = y := by injection hy with hy; injection hy
    have hij : i = j := hP x m n i j hd ha hb hm hn hmx hny
    rw [sortCompare_of_int m n i j hm hn, hij]
    exact Int.compare_eq_eq.mpr rfl

/-- Values in one place all come out equal, or else no double is among them. -/
theorem sortCompare_eq_or_exact (vs : List Value) (hvs : ∀ v ∈ vs, P v)
    (hplace : ∀ u ∈ vs, ∀ v ∈ vs, roundedCompare u v = .eq) :
    (∀ u ∈ vs, ∀ v ∈ vs, sortCompare u v = .eq) ∨ (∀ u ∈ vs, ∀ v ∈ vs, sortCompare u v = keyCompare u v) := by
  by_cases hdouble : ∃ d ∈ vs, d.isDouble = true
  · obtain ⟨d, hd, hisDouble⟩ := hdouble
    refine .inl fun u hu v hv => ?_
    exact sortCompare_eq_of_double hP u v d (hvs u hu) (hvs v hv) (hvs d hd) hisDouble (hplace u hu d hd)
      (hplace v hv d hd)
  · have hexact : ∀ v ∈ vs, v.isDouble = false := by
      intro v hv
      exact Bool.eq_false_iff.mpr fun h => hdouble ⟨v, hv, h⟩
    exact .inr fun u hu v hv => sortCompare_eq_keyCompare u v (hexact u hu) (hexact v hv)

theorem sortCompare_trans (a b c : Value) (ha : P a) (hb : P b) (hc : P c) (hab : (sortCompare a b).isLE)
    (hbc : (sortCompare b c).isLE) :
    (sortCompare a c).isLE ∧ (sortCompare a b = .lt ∨ sortCompare b c = .lt → sortCompare a c = .lt) := by
  have hab' := roundedCompare_of_sortCompare a b hab
  have hbc' := roundedCompare_of_sortCompare b c hbc
  have hac' := Std.TransCmp.isLE_trans hab' hbc'
  rcases Ordering.isLE_iff_eq_lt_or_eq_eq.mp hac' with hlt | heq
  · have hsort := sortCompare_of_roundedCompare_lt a c hlt
    exact ⟨by rw [hsort]; rfl, fun _ => hsort⟩
  · -- rounded, all three are in one place
    have hca := Ordering.isLE_of_eq_eq (Std.OrientedCmp.eq_symm heq)
    have heqba : roundedCompare b a = .eq := Std.OrientedCmp.isLE_antisymm (Std.TransCmp.isLE_trans hbc' hca) hab'
    have hfirst : ∀ v ∈ [a, b, c], roundedCompare v a = .eq := by
      simp only [List.forall_mem_cons, List.not_mem_nil, false_implies, implies_true, and_true]
      exact ⟨Std.ReflCmp.compare_self, heqba, Std.OrientedCmp.eq_symm heq⟩
    have hplace : ∀ u ∈ [a, b, c], ∀ v ∈ [a, b, c], roundedCompare u v = .eq := fun u hu v hv =>
      Std.TransCmp.eq_trans (hfirst u hu) (Std.OrientedCmp.eq_symm (hfirst v hv))
    have hvs : ∀ v ∈ [a, b, c], P v := by
      simp only [List.forall_mem_cons, List.not_mem_nil, false_implies, implies_true, and_true]
      exact ⟨ha, hb, hc⟩
    rcases sortCompare_eq_or_exact hP [a, b, c] hvs hplace with hall | hall
    · rw [hall a (by simp) b (by simp), hall b (by simp) c (by simp), hall a (by simp) c (by simp)]
      exact ⟨rfl, nofun⟩
    · rw [hall a (by simp) b (by simp)] at hab ⊢
      rw [hall b (by simp) c (by simp)] at hbc ⊢
      rw [hall a (by simp) c (by simp)]
      refine ⟨Std.TransCmp.isLE_trans hab hbc, ?_⟩
      rintro (hlt | hlt)
      · exact Std.TransCmp.lt_of_lt_of_isLE hlt hbc
      · exact Std.TransCmp.lt_of_isLE_of_lt hab hlt

end Column

/-- Sorting by a double and two integers that equal it needs the integers to be equal. -/
theorem discernsIntegers_of_trans (P : Value → Prop)
    (h : ∀ a b c, P a → P b → P c → sortCompare a b ≠ .gt → sortCompare b c ≠ .gt →
      sortCompare a c ≠ .gt ∧ (sortCompare a b = .lt ∨ sortCompare b c = .lt → sortCompare a c = .lt)) :
    DiscernsIntegers P := by
  intro x m n i j hx hPm hPn hm hn hmx hnx
  -- the double comes first, then the lesser of the integers
  have hnot : ∀ (k l : Number) (u v : Int), P (number k) → P (number l) → k.int? = some u → l.int? = some v →
      k.compare? (.float x) = some .eq → l.compare? (.float x) = some .eq → ¬u < v := by
    intro k l u v hPk hPl hk hl hkx hlx hlt
    have hfirst : ∀ q : Number, q.compare? (.float x) = some .eq →
        sortCompare (number (.float x)) (number q) = .eq := by
      intro q hq
      rw [sortCompare_swap (number q), sortCompare, hq]
      rfl
    have hstep : sortCompare (number k) (number l) = .lt := by
      rw [sortCompare_of_int k l u v hk hl]
      exact Int.compare_eq_lt.mpr hlt
    obtain ⟨_, hstrict⟩ := h _ _ _ hx hPk hPl (by rw [hfirst k hkx]; nofun) (by rw [hstep]; nofun)
    rw [hfirst l hlx] at hstrict
    exact absurd (hstrict (.inr hstep)) nofun
  have hij := hnot m n i j hPm hPn hm hn hmx hnx
  have hji := hnot n m j i hPn hPm hn hm hnx hmx
  omega

/-- The order by which results are sorted is reflexive and turns round with its sides. It is a total preorder of a
column of values just where no double of the column equals two different integers of it, as is so where the integers
have at most 53 bits. -/
theorem sortCompare_total (P : Value → Prop) :
    (∀ a, sortCompare a a = .eq) ∧
    (∀ a b, sortCompare b a = (sortCompare a b).swap) ∧
    ((∀ a b c, P a → P b → P c → sortCompare a b ≠ .gt → sortCompare b c ≠ .gt →
      sortCompare a c ≠ .gt ∧ (sortCompare a b = .lt ∨ sortCompare b c = .lt → sortCompare a c = .lt)) ↔
      DiscernsIntegers P) ∧
    ((∀ n i, P (number n) → n.int? = some i → i.natAbs ≤ 9007199254740992) → DiscernsIntegers P) := by
  refine ⟨sortCompare_self, sortCompare_swap, ⟨discernsIntegers_of_trans P, ?_⟩, discernsIntegers_of_short P⟩
  intro hP a b c ha hb hc hab hbc
  obtain ⟨hle, hlt⟩ := sortCompare_trans hP a b c ha hb hc (Ordering.isLE_iff_ne_gt.mpr hab)
    (Ordering.isLE_iff_ne_gt.mpr hbc)
  exact ⟨Ordering.isLE_iff_ne_gt.mp hle, hlt⟩

/-- A double in the place of two integers that differ. -/
theorem sortCompare_around_double :
    sortCompare (number (.signed 9007199254740993)) (number (.float ⟨0x4340000000000000⟩)) = .eq ∧
    sortCompare (number (.float ⟨0x4340000000000000⟩)) (number (.signed 9007199254740992)) = .eq ∧
    sortCompare (number (.signed 9007199254740993)) (number (.signed 9007199254740992)) = .gt := by
  decide +kernel

end RecordQuery.Value
