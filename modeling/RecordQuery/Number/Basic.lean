import RecordQuery.Json.Basic
import RecordQuery.Number.Rounding

/-! Numbers as records hold them: signed or unsigned words of 64 bits, or doubles. Integers are compared exactly,
whatever their sign; as soon as a double takes part, both sides are compared as doubles. -/
namespace RecordQuery
set_option autoImplicit false

inductive Number where
  | signed (n : Int64)
  | unsigned (n : UInt64)
  | float (x : Binary64)
deriving Repr

namespace Number

/-- A number read from JSON: signed if it fits, else unsigned if it fits, else a double. -/
def ofJson : JsonNumber → Number
  | .int n =>
    if Int64.minValue.toInt ≤ n ∧ n ≤ Int64.maxValue.toInt then signed (Int64.ofInt n)
    else if 0 ≤ n ∧ n < UInt64.size then unsigned (UInt64.ofNat n.toNat)
    else float (Binary64.ofInt n)
  | .double x => float x.value

/-- The integer that a number is, unless it is a double. -/
def int? : Number → Option Int
  | signed n => some n.toInt
  | unsigned n => some n.toNat
  | float _ => none

/-- The nearest double. -/
def toBinary64 : Number → Binary64
  | signed n => Binary64.ofInt n.toInt
  | unsigned n => Binary64.ofInt n.toNat
  | float x => x

/-- The order of two numbers; none where something that is not a number takes part. -/
def compare? (a b : Number) : Option Ordering :=
  match a.int?, b.int? with
  | some m, some n => some (compare m n)
  | _, _ => a.toBinary64.compare? b.toBinary64

/-- Equality of numbers in one representation; numbers in different ones are never equal. -/
def equal : Number → Number → Bool
  | signed m, signed n => decide (m = n)
  | unsigned m, unsigned n => decide (m = n)
  | float x, float y => x == y
  | _, _ => false

instance : BEq Number := ⟨equal⟩

end Number

end RecordQuery
