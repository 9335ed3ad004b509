import RecordQuery.Number.Binary64

/-! The double nearest to a quotient of naturals, a tie going to the even significand, and the roundings that
come down to it: integers, decimals with an exponent, and single precision. -/
namespace RecordQuery
set_option autoImplicit false

/-- The quotient rounded to the nearest natural; halfway goes to the even neighbour. -/
def divHalfEven (num den : Nat) : Nat :=
  let quotient := num / den
  let twice := 2 * (num % den)
  if twice < den then quotient
  else if den < twice then quotient + 1
  else quotient + quotient % 2

/-- Multiplies the pair's first part by `base ^ e`, or its second part when `e` is negative. -/
def scaleQuotient (base : Nat) (num den : Nat) (e : Int) : Nat × Nat :=
  if 0 ≤ e then (num * base.pow e.toNat, den) else (num, den * base.pow (-e).toNat)

/-- The exponent of the greatest power of two that is not above the quotient of two positive naturals. -/
def floorLogTwo (num den : Nat) : Int :=
  let guess : Int := (num.log2 : Int) - den.log2
  let scaled := scaleQuotient 2 num den (-guess)
  if scaled.1 < scaled.2 then guess - 1 else guess

/-- The significand of at most `precision` bits and the exponent of its unit, never below `leastUnit`, that
together come nearest to the quotient. -/
def roundToUnits (precision : Nat) (leastUnit : Int) (num den : Nat) : Nat × Int :=
  let unit := max (floorLogTwo num den - (precision - 1 : Nat)) leastUnit
  let scaled := scaleQuotient 2 num den (-unit)
  (divHalfEven scaled.1 scaled.2, unit)

namespace Binary64

/-- The double nearest to the quotient; a quotient beyond the largest finite double rounds to infinity. -/
def ofQuotient (negative : Bool) (num den : Nat) : Binary64 :=
  if num = 0 then ofSignMagnitude negative 0
  else
    let (significand, unit) := roundToUnits 53 (-1074) num den
    ofSignMagnitude negative (Nat.min infinityMagnitude ((unit + 1074).toNat * fractionLimit + significand))

def ofInt (n : Int) : Binary64 := ofQuotient (decide (n < 0)) n.natAbs 1

/-- The double nearest to `digits * 10 ^ exponent`. Exponents that put the value outside the finite range
whatever its digits are settled without the power. -/
def ofDecimal (negative : Bool) (digits : Nat) (exponent : Int) : Binary64 :=
  if digits = 0 then ofSignMagnitude negative 0
  else if 400 < exponent then infinity negative
  else if exponent + (digits.log2 : Int) < -1200 then ofSignMagnitude negative 0
  else
    let scaled := scaleQuotient 10 digits 1 exponent
    ofQuotient negative scaled.1 scaled.2

/-- The value after a passage through single precision: 24 bits of significand, least unit `2 ^ -149`, and
infinity from `2 ^ 128` on. -/
def toSingle (x : Binary64) : Binary64 :=
  if !x.isFinite || x.isZero then x
  else
    let (significand, unit) := roundToUnits 24 (-149) (x.significand <<< x.unit) (1 <<< 1074)
    let scaled := scaleQuotient 2 significand 1 unit
    if scaled.2 <<< 128 ≤ scaled.1 then infinity x.negative
    else ofQuotient x.negative scaled.1 scaled.2

end Binary64

end RecordQuery
