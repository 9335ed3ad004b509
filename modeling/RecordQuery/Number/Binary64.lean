/-! Double-precision numbers as 64-bit patterns: classification, numeric comparison, and the total order that
also places zeros of either sign and values that are not numbers. A pattern is a sign above a magnitude, and
magnitudes are ordered as the naturals they spell, so every comparison is one of integers. -/
namespace RecordQuery
set_option autoImplicit false

/-- A double-precision number, given by its bit pattern. -/
structure Binary64 where
  bits : UInt64
deriving DecidableEq, Repr, Inhabited

namespace Binary64

/-! ## Fields -/

/-- The bit of the sign, above the 63 bits of the magnitude. -/
def signBit : Nat := 0x8000000000000000

/-- The bit above the 52 bits of the fraction, the least one of the exponent field. -/
def fractionLimit : Nat := 0x10000000000000

/-- The pattern without its sign. -/
def magnitude (x : Binary64) : Nat := x.bits.toNat % signBit

def negative (x : Binary64) : Bool := decide (signBit ≤ x.bits.toNat)

/-- The magnitude of the infinities: an exponent field of ones over an empty fraction. -/
def infinityMagnitude : Nat := 0x7FF * fractionLimit

def isNaN (x : Binary64) : Bool := decide (infinityMagnitude < x.magnitude)

def isFinite (x : Binary64) : Bool := decide (x.magnitude < infinityMagnitude)

def isZero (x : Binary64) : Bool := x.magnitude == 0

/-- The pattern with the given sign and magnitude. -/
def ofSignMagnitude (negative : Bool) (magnitude : Nat) : Binary64 :=
  ⟨UInt64.ofNat ((if negative then signBit else 0) + magnitude % signBit)⟩

def zero : Binary64 := ofSignMagnitude false 0

def negativeZero : Binary64 := ofSignMagnitude true 0

def infinity (negative : Bool) : Binary64 := ofSignMagnitude negative infinityMagnitude

/-- The quiet pattern that is not a number, with either sign: only the fraction's highest bit is set. -/
def nan (negative : Bool) : Binary64 := ofSignMagnitude negative (infinityMagnitude + fractionLimit / 2)

/-- The integer whose multiple of `2 ^ unit / 2 ^ 1074` is the absolute value of a finite number. -/
def significand (x : Binary64) : Nat :=
  if x.magnitude < fractionLimit then x.magnitude else fractionLimit + x.magnitude % fractionLimit

/-- The power of two, above the least one, in which the significand counts. -/
def unit (x : Binary64) : Nat := x.magnitude / fractionLimit - 1

/-! ## Numeric comparison -/

/-- The integer by which numbers are ordered: both zeros are zero. -/
def key (x : Binary64) : Int := if x.negative then -(x.magnitude : Int) else x.magnitude

/-- The numeric order; what is not a number has no place in it. -/
def compare? (x y : Binary64) : Option Ordering :=
  if x.isNaN || y.isNaN then none else some (compare x.key y.key)

/-- Numeric equality: zeros agree whatever their sign, and what is not a number differs from itself. -/
def equal (x y : Binary64) : Bool := x.compare? y == some .eq

instance : BEq Binary64 := ⟨equal⟩

def le (x y : Binary64) : Bool := !x.isNaN && !y.isNaN && decide (x.key ≤ y.key)

def lt (x y : Binary64) : Bool := !x.isNaN && !y.isNaN && decide (x.key < y.key)

/-- The smaller of two numbers, the first on a tie; what is not a number gives way. -/
def min (x y : Binary64) : Binary64 := if x.isNaN || y.lt x then y else x

/-- The larger of two numbers, the first on a tie; what is not a number gives way. -/
def max (x y : Binary64) : Binary64 := if x.isNaN || x.lt y then y else x

/-! ## Total order -/

/-- The integer by which patterns are ordered totally: negative patterns mirror the positive ones below zero. -/
def totalKey (x : Binary64) : Int := if x.negative then -(x.magnitude : Int) - 1 else x.magnitude

def totalCompare (x y : Binary64) : Ordering := compare x.totalKey y.totalKey

end Binary64

/-! ## Finite numbers -/

/-- A double that stands for a real number. -/
structure FiniteBinary64 where
  value : Binary64
  finite : value.isFinite = true
deriving DecidableEq, Repr

/-- The double as a finite one, if it is. -/
def Binary64.finite? (x : Binary64) : Option FiniteBinary64 :=
  if h : x.isFinite = true then some ⟨x, h⟩ else none

end RecordQuery
