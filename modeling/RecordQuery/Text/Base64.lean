/-! Bytes written with 64 symbols. Padding may be there or not, in part too, but only where the last group of four
symbols leaves room for it; and the bits that the last symbol has to spare must be zero. -/
namespace RecordQuery.Text
set_option autoImplicit false

/-- Two symbols differ between the alphabets: those of 62 and 63. -/
inductive Base64Alphabet where
  | standard
  | urlSafe
deriving DecidableEq, Repr

/-- Why bytes are no encoding, with the offset of the fault. -/
inductive Base64Error where
  | invalidSymbol (symbol : UInt8) (offset : Nat)
  | invalidLastSymbol (symbol : UInt8) (offset : Nat)
  | invalidLength (length : Nat)
deriving DecidableEq, Repr

def Base64Error.message : Base64Error → String
  | invalidSymbol symbol offset =>
    "Invalid symbol " ++ toString symbol.toNat ++ ", offset " ++ toString offset ++ "."
  | invalidLastSymbol symbol offset =>
    "Invalid last symbol " ++ toString symbol.toNat ++ ", offset " ++ toString offset ++ "."
  | invalidLength length => "Invalid input length: " ++ toString length

/-- The sign for padding. -/
def base64Padding : UInt8 := 0x3D

namespace Base64Alphabet

/-- The value of a symbol. -/
def sextet? (a : Base64Alphabet) (symbol : UInt8) : Option Nat :=
  let n := symbol.toNat
  if 0x41 ≤ n ∧ n ≤ 0x5A then some (n - 0x41)
  else if 0x61 ≤ n ∧ n ≤ 0x7A then some (n - 0x61 + 26)
  else if 0x30 ≤ n ∧ n ≤ 0x39 then some (n - 0x30 + 52)
  else match a with
    | standard => if n = 0x2B then some 62 else if n = 0x2F then some 63 else none
    | urlSafe => if n = 0x2D then some 62 else if n = 0x5F then some 63 else none

def value (a : Base64Alphabet) (symbol : UInt8) (offset : Nat) : Except Base64Error Nat :=
  match a.sextet? symbol with
  | some n => .ok n
  | none => .error (.invalidSymbol symbol offset)

/-- The symbols of the last group, with their values, up to the padding. Padding takes the third and the fourth
place only, and nothing follows it; the first padding is at `padding`. -/
def lastGroup (a : Base64Alphabet) (start : Nat) :
    Nat → Option Nat → List UInt8 → Except Base64Error (List (UInt8 × Nat))
  | _, _, [] => .ok []
  | place, padding, symbol :: rest =>
    if symbol = base64Padding then
      if place < 2 then .error (.invalidSymbol symbol (start + place))
      else a.lastGroup start (place + 1) (some (padding.getD place)) rest
    else match padding with
      | some first => .error (.invalidSymbol base64Padding (start + first))
      | none => do
        let n ← a.value symbol (start + place)
        let more ← a.lastGroup start (place + 1) none rest
        .ok ((symbol, n) :: more)

/-- The bytes of the last group, which starts at an offset. -/
def lastBytes (start : Nat) : List (UInt8 × Nat) → Except Base64Error (List UInt8)
  | [(_, p), (s, q)] =>
    if q % 16 ≠ 0 then .error (.invalidLastSymbol s (start + 1))
    else .ok [UInt8.ofNat (p * 4 + q / 16)]
  | [(_, p), (_, q), (s, r)] =>
    if r % 4 ≠ 0 then .error (.invalidLastSymbol s (start + 2))
    else .ok [UInt8.ofNat (p * 4 + q / 16), UInt8.ofNat (q % 16 * 16 + r / 4)]
  | [(_, p), (_, q), (_, r), (_, t)] =>
    .ok [UInt8.ofNat (p * 4 + q / 16), UInt8.ofNat (q % 16 * 16 + r / 4), UInt8.ofNat (r % 4 * 64 + t)]
  | symbols => .error (.invalidLength (start + symbols.length))

/-- The bytes of all groups; the last one holds four symbols at most and is the only one with padding. -/
def groups (a : Base64Alphabet) : Nat → List UInt8 → Except Base64Error (List UInt8)
  | start, s :: t :: u :: v :: w :: rest => do
    let p ← a.value s start
    let q ← a.value t (start + 1)
    let r ← a.value u (start + 2)
    let x ← a.value v (start + 3)
    let more ← a.groups (start + 4) (w :: rest)
    .ok (UInt8.ofNat (p * 4 + q / 16) :: UInt8.ofNat (q % 16 * 16 + r / 4) :: UInt8.ofNat (r % 4 * 64 + x) :: more)
  | start, symbols => do lastBytes start (← a.lastGroup start 0 none symbols)

/-- The bytes that symbols encode. A single symbol left over is faulted first if it is none of the alphabet. -/
def decode (a : Base64Alphabet) (symbols : List UInt8) : Except Base64Error (List UInt8) :=
  match symbols.getLast? with
  | none => .ok []
  | some last =>
    if symbols.length % 4 = 1 ∧ last ≠ base64Padding ∧ (a.sextet? last).isNone then
      .error (.invalidSymbol last (symbols.length - 1))
    else a.groups 0 symbols

end Base64Alphabet

end RecordQuery.Text
