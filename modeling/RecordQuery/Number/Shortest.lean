import RecordQuery.Number.Rounding

/-! The fewest decimal digits that read back as a given double, and the text made of them: positional from
`1e-5` up to `1e16`, with an exponent outside. -/
namespace RecordQuery
set_option autoImplicit false

/-! ## Digits -/

/-- A positive decimal `digits * 10 ^ exponent`. -/
structure Decimal where
  digits : Nat
  exponent : Int
deriving DecidableEq, Repr

namespace Decimal

/-- Moves trailing zeros from the digits to the exponent; at most `fuel` of them. -/
def dropZeros : Nat → Nat → Int → Decimal
  | 0, digits, exponent => ⟨digits, exponent⟩
  | fuel + 1, digits, exponent =>
    if digits % 10 = 0 then dropZeros fuel (digits / 10) (exponent + 1) else ⟨digits, exponent⟩

/-- The greatest `k` near the estimate from the binary logarithm with `10 ^ k` not above the quotient. -/
def floorLogTen (num den : Nat) : Int :=
  let guess := (floorLogTwo num den * 30103).fdiv 100000
  let reaches := fun (k : Int) =>
    let scaled := scaleQuotient 10 num den (-k)
    decide (scaled.2 ≤ scaled.1)
  if reaches (guess + 1) then guess + 1 else if reaches guess then guess else guess - 1

/-- The reals that round to one double, as multiples of a quarter of its unit over a common denominator. -/
structure Interval where
  low : Nat
  value : Nat
  high : Nat
  den : Nat
  closed : Bool

/-- Whether `digits` steps of the grid `10 ^ exponent` fall into the interval. -/
def Interval.holds (i : Interval) (digits : Nat) (exponent : Int) : Bool :=
  let point := scaleQuotient 10 digits 1 exponent
  let low := compare (i.low * point.2) (point.1 * i.den)
  let high := compare (point.1 * i.den) (i.high * point.2)
  (low == .lt || (i.closed && low == .eq)) && (high == .lt || (i.closed && high == .eq))

/-- The neighbour of the value on the grid `10 ^ exponent` that lies in the interval, the nearer of two; a tie
goes to the even one. -/
def Interval.hit? (i : Interval) (exponent : Int) : Option Nat :=
  let scaled := scaleQuotient 10 i.value i.den (-exponent)
  let below := scaled.1 / scaled.2
  match i.holds below exponent, i.holds (below + 1) exponent with
  | true, true => some (divHalfEven scaled.1 scaled.2)
  | true, false => some below
  | false, true => some (below + 1)
  | false, false => none

/-- The first hit among the grids of `digits`, `digits + 1`, … significant places. -/
def Interval.search (i : Interval) (top : Int) : Nat → Nat → Option Decimal
  | 0, _ => none
  | fuel + 1, places =>
    let exponent := top - (places : Int)
    match i.hit? exponent with
    | some digits => some (dropZeros 20 digits exponent)
    | none => i.search top fuel (places + 1)

end Decimal

namespace Binary64

/-- The reals that round to a finite nonzero double. Below a power of two the neighbour is half as far. -/
def interval (x : Binary64) : Decimal.Interval :=
  let lowStep := if x.significand = fractionLimit ∧ x.unit ≠ 0 then 1 else 2
  { low := (4 * x.significand - lowStep) <<< x.unit
    value := (4 * x.significand) <<< x.unit
    high := (4 * x.significand + 2) <<< x.unit
    den := 1 <<< 1076
    closed := x.significand % 2 == 0 }

/-- The shortest decimal that reads back as the absolute value of a finite nonzero double, and of those of one
length the nearest. -/
def shortest (x : Binary64) : Decimal :=
  let i := x.interval
  (i.search (Decimal.floorLogTen i.value i.den) 17 0).getD ⟨0, 0⟩

/-! ## Text -/

/-- The decimal digits of a natural. -/
def digitChars (n : Nat) : List Char := Nat.toDigits 10 n

/-- A positive decimal in positional notation, with at least one place after the point. -/
def positional (digits : List Char) (exponent : Int) : List Char :=
  if 0 ≤ exponent then digits ++ List.replicate exponent.toNat '0' ++ ['.', '0']
  else
    let places := (-exponent).toNat
    if places < digits.length then
      digits.take (digits.length - places) ++ '.' :: digits.drop (digits.length - places)
    else '0' :: '.' :: List.replicate (places - digits.length) '0' ++ digits

/-- A positive decimal with one digit before the point and a signed exponent; a lone digit has no point. -/
def scientific (digits : List Char) (power : Int) : List Char :=
  let mantissa := match digits with
    | [] => []
    | [d] => [d]
    | d :: ds => d :: '.' :: ds
  mantissa ++ 'e' :: (if power < 0 then '-' else '+') :: digitChars power.natAbs

/-- The text of a finite number: positional when the leading digit's power of ten is from -5 to 15. -/
def chars (x : Binary64) : List Char :=
  let unsigned :=
    if x.isZero then ['0', '.', '0']
    else
      let d := x.shortest
      let digits := digitChars d.digits
      let power := d.exponent + digits.length - 1
      if -5 ≤ power ∧ power ≤ 15 then positional digits d.exponent else scientific digits power
  if x.negative then '-' :: unsigned else unsigned

def text (x : Binary64) : String := String.ofList x.chars

end Binary64

end RecordQuery
