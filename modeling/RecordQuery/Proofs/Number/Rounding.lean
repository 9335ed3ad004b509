import RecordQuery.Number.Rounding
import RecordQuery.Proofs.Number.Canonical

/-! Integers as doubles. Rounding keeps the order of integers, though it may bring different ones together; what has at
most 53 bits it leaves apart. -/
namespace RecordQuery
set_option autoImplicit false

/-! ## Rounded quotients -/

theorem divHalfEven_spec (num den : Nat) :
    (2 * (num % den) < den ∧ divHalfEven num den = num / den) ∨
    (den < 2 * (num % den) ∧ divHalfEven num den = num / den + 1) ∨
    (2 * (num % den) = den ∧ divHalfEven num den = num / den + num / den % 2) := by
  by_cases hlow : 2 * (num % den) < den
  · exact .inl ⟨hlow, by simp only [divHalfEven, if_pos hlow]⟩
  · by_cases hhigh : den < 2 * (num % den)
    · exact .inr (.inl ⟨hhigh, by simp only [divHalfEven, if_neg hlow, if_pos hhigh]⟩)
    · exact .inr (.inr ⟨by omega, by simp only [divHalfEven, if_neg hlow, if_neg hhigh]⟩)

theorem divHalfEven_mono (den : Nat) {m n : Nat} (h : m ≤ n) : divHalfEven m den ≤ divHalfEven n den := by
  have hm := divHalfEven_spec m den
  have hn := divHalfEven_spec n den
  have hquotient : m / den ≤ n / den := Nat.div_le_div_right h
  by_cases heq : m / den = n / den
  · -- with one quotient the remainders decide
    have hmod := Nat.div_add_mod m den
    have hmod' := Nat.div_add_mod n den
    rw [← heq] at hmod' hn
    have hremainder : m % den ≤ n % den := by omega
    omega
  · omega

theorem divHalfEven_mul_right (n : Nat) {den : Nat} (hden : 0 < den) : divHalfEven (n * den) den = n := by
  have h := divHalfEven_spec (n * den) den
  rw [Nat.mul_mod_left, Nat.mul_div_cancel n hden] at h
  omega

/-! ## Units -/

theorem floorLogTwo_one (n : Nat) (hn : n ≠ 0) : floorLogTwo n 1 = n.log2 := by
  have hlow : Nat.pow 2 n.log2 ≤ n := Nat.log2_self_le hn
  have hone : Nat.log2 1 = 0 := by decide
  simp only [floorLogTwo, hone, scaleQuotient]
  split
  · have hzero : n.log2 = 0 := by omega
    rw [hzero]
    simp
    omega
  · have hexponent : (- -((n.log2 : Int) - (0 : Nat))).toNat = n.log2 := by omega
    rw [hexponent]
    simp only [Nat.one_mul]
    rw [if_neg (by omega)]
    omega

/-! ## Significands of integers -/

/-- The significand of the double nearest to a positive integer, in units of the last of its 53 bits. -/
def integerSignificand (n : Nat) : Nat := divHalfEven (n * Nat.pow 2 (52 - n.log2)) (Nat.pow 2 (n.log2 - 52))

theorem roundToUnits_one (n : Nat) (hn : n ≠ 0) :
    roundToUnits 53 (-1074) n 1 = (integerSignificand n, (n.log2 : Int) - 52) := by
  have hunit : max (floorLogTwo n 1 - (53 - 1 : Nat)) (-1074) = (n.log2 : Int) - 52 := by
    rw [floorLogTwo_one n hn]
    omega
  simp only [roundToUnits, hunit, scaleQuotient, integerSignificand]
  split
  · have hup : (-((n.log2 : Int) - 52)).toNat = 52 - n.log2 := by omega
    have hdown : n.log2 - 52 = 0 := by omega
    rw [hup, hdown]
  · have hup : 52 - n.log2 = 0 := by omega
    have hdown : (- -((n.log2 : Int) - 52)).toNat = n.log2 - 52 := by omega
    have hone : Nat.pow 2 0 = 1 := rfl
    rw [hup, hdown, hone, Nat.one_mul, Nat.mul_one]

/-- A positive integer with its leading bit shifted to the place of the 53rd. -/
theorem shifted_bounds (n : Nat) (hn : n ≠ 0) :
    Binary64.fractionLimit * Nat.pow 2 (n.log2 - 52) ≤ n * Nat.pow 2 (52 - n.log2) ∧
    n * Nat.pow 2 (52 - n.log2) < 2 * Binary64.fractionLimit * Nat.pow 2 (n.log2 - 52) := by
  have hlow : Nat.pow 2 n.log2 ≤ n := Nat.log2_self_le hn
  have hhigh : n < Nat.pow 2 n.log2 * 2 := Nat.lt_log2_self
  have hlimit : Binary64.fractionLimit = Nat.pow 2 52 := rfl
  have hadd : ∀ a b, Nat.pow 2 a * Nat.pow 2 b = Nat.pow 2 (a + b) := fun a b => (Nat.pow_add 2 a b).symm
  by_cases hsmall : n.log2 ≤ 52
  · have hdown : n.log2 - 52 = 0 := by omega
    have hpow : Nat.pow 2 n.log2 * Nat.pow 2 (52 - n.log2) = Binary64.fractionLimit := by
      rw [hadd, Nat.add_sub_of_le hsmall, hlimit]
    have hone : Nat.pow 2 (n.log2 - 52) = 1 := by rw [hdown]
    have hpos : 0 < Nat.pow 2 (52 - n.log2) := Nat.two_pow_pos _
    have h1 := Nat.mul_le_mul_right (Nat.pow 2 (52 - n.log2)) hlow
    have h2 := Nat.mul_lt_mul_of_pos_right hhigh hpos
    rw [Nat.mul_right_comm] at h2
    rw [hpow] at h1 h2
    rw [hone]
    omega
  · have hup : Nat.pow 2 (52 - n.log2) = 1 := by
      have h : 52 - n.log2 = 0 := by omega
      rw [h]
    have hpow : Binary64.fractionLimit * Nat.pow 2 (n.log2 - 52) = Nat.pow 2 n.log2 := by
      rw [hlimit, hadd, Nat.add_sub_of_le (by omega)]
    rw [hup, Nat.mul_assoc, hpow]
    omega

theorem integerSignificand_bounds (n : Nat) (hn : n ≠ 0) :
    Binary64.fractionLimit ≤ integerSignificand n ∧ integerSignificand n ≤ 2 * Binary64.fractionLimit := by
  obtain ⟨hlow, hhigh⟩ := shifted_bounds n hn
  have hden : 0 < Nat.pow 2 (n.log2 - 52) := Nat.two_pow_pos _
  have h1 := divHalfEven_mono (Nat.pow 2 (n.log2 - 52)) hlow
  have h2 := divHalfEven_mono (Nat.pow 2 (n.log2 - 52)) (Nat.le_of_lt hhigh)
  rw [divHalfEven_mul_right _ hden] at h1 h2
  exact ⟨h1, h2⟩

theorem integerSignificand_of_short (n : Nat) (h : n.log2 ≤ 52) :
    integerSignificand n = n * Nat.pow 2 (52 - n.log2) := by
  have hdown : n.log2 - 52 = 0 := by omega
  have hden : Nat.pow 2 (n.log2 - 52) = 1 := by rw [hdown]
  have h := divHalfEven_mul_right (n * Nat.pow 2 (52 - n.log2)) Nat.one_pos
  rw [integerSignificand, hden]
  rwa [Nat.mul_one] at h

/-! ## Magnitudes of integers -/

namespace Binary64

/-- The magnitude of the double nearest to a natural, were there no infinity. -/
def spacedMagnitude (n : Nat) : Nat := if n = 0 then 0 else (n.log2 + 1022) * fractionLimit + integerSignificand n

theorem spacedMagnitude_mono {m n : Nat} (h : m ≤ n) : spacedMagnitude m ≤ spacedMagnitude n := by
  by_cases hm : m = 0
  · rw [spacedMagnitude, if_pos hm]
    exact Nat.zero_le _
  · have hn : n ≠ 0 := by omega
    have hlog : m.log2 ≤ n.log2 := (Nat.le_log2 hn).mpr (Nat.le_trans (Nat.log2_self_le hm) h)
    rw [spacedMagnitude, spacedMagnitude, if_neg hm, if_neg hn]
    by_cases heq : m.log2 = n.log2
    · have hsignificand : integerSignificand m ≤ integerSignificand n := by
        rw [integerSignificand, integerSignificand, heq]
        exact divHalfEven_mono _ (Nat.mul_le_mul_right _ h)
      rw [heq]
      omega
    · -- the significand of the lower one reaches the next power of two at most
      have hlower := (integerSignificand_bounds m hm).2
      have hupper := (integerSignificand_bounds n hn).1
      simp only [fractionLimit] at hlower hupper ⊢
      omega

/-- Naturals of at most 53 bits have magnitudes of their own. -/
theorem spacedMagnitude_strict {m n : Nat} (h : m < n) (hn : n ≤ 2 * fractionLimit) :
    spacedMagnitude m < spacedMagnitude n := by
  have hn0 : n ≠ 0 := by omega
  have hupper := (integerSignificand_bounds n hn0).1
  by_cases hm : m = 0
  · rw [spacedMagnitude, spacedMagnitude, if_pos hm, if_neg hn0]
    simp only [fractionLimit] at hupper ⊢
    omega
  · have hshort : m.log2 ≤ 52 := by
      have hpow : Nat.pow 2 53 = 2 * fractionLimit := rfl
      have hlt : m < Nat.pow 2 53 := by omega
      exact Nat.le_of_lt_succ ((Nat.log2_lt hm).mpr hlt)
    have hlog : m.log2 ≤ n.log2 := (Nat.le_log2 hn0).mpr (Nat.le_trans (Nat.log2_self_le hm) (Nat.le_of_lt h))
    rw [spacedMagnitude, spacedMagnitude, if_neg hm, if_neg hn0]
    rw [integerSignificand_of_short m hshort]
    by_cases heq : m.log2 = n.log2
    · rw [integerSignificand_of_short n (by omega), heq]
      have hlt := Nat.mul_lt_mul_of_pos_right h (Nat.two_pow_pos (52 - n.log2))
      exact Nat.add_lt_add_left hlt _
    · have hlower := (shifted_bounds m hm).2
      have hdown : m.log2 - 52 = 0 := by omega
      have hden : Nat.pow 2 (m.log2 - 52) = 1 := by rw [hdown]
      rw [hden] at hlower
      simp only [fractionLimit] at hlower hupper ⊢
      omega

theorem ofInt_eq (n : Int) :
    ofInt n = ofSignMagnitude (decide (n < 0)) (Nat.min infinityMagnitude (spacedMagnitude n.natAbs)) := by
  rw [ofInt, ofQuotient, spacedMagnitude]
  split
  · rfl
  · rename_i hn
    have hexponent : ((n.natAbs.log2 : Int) - 52 + 1074).toNat = n.natAbs.log2 + 1022 := by omega
    rw [roundToUnits_one n.natAbs hn]
    dsimp only
    rw [hexponent]

theorem magnitude_ofSignMagnitude (negative : Bool) (m : Nat) (h : m ≤ infinityMagnitude) :
    (ofSignMagnitude negative m).magnitude = m ∧ (ofSignMagnitude negative m).negative = negative := by
  have hm : m % signBit = m := Nat.mod_eq_of_lt (by simp only [signBit, infinityMagnitude, fractionLimit] at *; omega)
  have hbits : (ofSignMagnitude negative m).bits.toNat = (if negative then signBit else 0) + m := by
    rw [ofSignMagnitude, hm]
    refine UInt64.toNat_ofNat_of_lt' ?_
    simp only [signBit, infinityMagnitude, fractionLimit, UInt64.size] at *
    cases negative <;> simp <;> omega
  rw [magnitude, Binary64.negative, hbits]
  cases negative <;> simp [signBit, infinityMagnitude, fractionLimit] at * <;> omega

theorem key_ofInt (n : Int) :
    (ofInt n).key = if n < 0 then -(Nat.min infinityMagnitude (spacedMagnitude n.natAbs) : Int)
      else Nat.min infinityMagnitude (spacedMagnitude n.natAbs) := by
  obtain ⟨hmagnitude, hnegative⟩ := magnitude_ofSignMagnitude (decide (n < 0))
    (Nat.min infinityMagnitude (spacedMagnitude n.natAbs)) (Nat.min_le_left _ _)
  rw [ofInt_eq, key, hmagnitude, hnegative]
  simp only [decide_eq_true_eq]

theorem isNaN_ofInt (n : Int) : (ofInt n).isNaN = false := by
  rw [isNaN, ofInt_eq, (magnitude_ofSignMagnitude _ _ (Nat.min_le_left _ _)).1, decide_eq_false_iff_not]
  exact Nat.not_lt.mpr (Nat.min_le_left _ _)

/-- Rounding keeps the order of integers. -/
theorem key_ofInt_mono {m n : Int} (h : m ≤ n) : (ofInt m).key ≤ (ofInt n).key := by
  have hmono : ∀ a b : Nat, a ≤ b →
      Nat.min infinityMagnitude (spacedMagnitude a) ≤ Nat.min infinityMagnitude (spacedMagnitude b) := by
    intro a b hab
    have := spacedMagnitude_mono hab
    simp only [Nat.min_def]
    split <;> split <;> omega
  rw [key_ofInt, key_ofInt]
  by_cases hm : m < 0 <;> by_cases hn : n < 0
  · have := hmono n.natAbs m.natAbs (by omega)
    rw [if_pos hm, if_pos hn]
    omega
  · rw [if_pos hm, if_neg hn]
    omega
  · omega
  · have := hmono m.natAbs n.natAbs (by omega)
    rw [if_neg hm, if_neg hn]
    omega

theorem spacedMagnitude_short {n : Nat} (hn : n ≤ 2 * fractionLimit) :
    Nat.min infinityMagnitude (spacedMagnitude n) = spacedMagnitude n := by
  have hlimit : spacedMagnitude (2 * fractionLimit) ≤ infinityMagnitude := by decide +kernel
  exact Nat.min_eq_right (Nat.le_trans (spacedMagnitude_mono hn) hlimit)

/-- Integers of at most 53 bits are told apart by their doubles. -/
theorem key_ofInt_inj {m n : Int} (hm : m.natAbs ≤ 2 * fractionLimit) (hn : n.natAbs ≤ 2 * fractionLimit)
    (h : (ofInt m).key = (ofInt n).key) : m = n := by
  have hstrict : ∀ a b : Nat, b ≤ 2 * fractionLimit → a < b → spacedMagnitude a < spacedMagnitude b :=
    fun a b hb hab => spacedMagnitude_strict hab hb
  have hzero : spacedMagnitude 0 = 0 := rfl
  rw [key_ofInt, key_ofInt, spacedMagnitude_short hm, spacedMagnitude_short hn] at h
  have h1 := hstrict m.natAbs n.natAbs hn
  have h2 := hstrict n.natAbs m.natAbs hm
  have h3 := hstrict 0 m.natAbs hm
  have h4 := hstrict 0 n.natAbs hn
  split at h <;> split at h <;> omega

end Binary64

end RecordQuery
