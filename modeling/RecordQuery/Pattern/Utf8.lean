import RecordQuery.Unicode.Ranges

/-! The encodings of the characters of a set, as sequences of byte ranges: a character belongs to the set when its
bytes lie in the ranges of one sequence, each in its own. -/
namespace RecordQuery.Pattern
set_option autoImplicit false

open Unicode (Ranges)

/-- The bytes from one to another. -/
abbrev ByteRange := UInt8 × UInt8

/-- The first code points of the longer encodings. -/
def lengthBounds : List Nat := [0x80, 0x800, 0x10000]

/-- A bound of a block of codes strictly above `low` and not above `high`, where the range is not made of whole
blocks. -/
def blockBound? (low high size : Nat) : Option Nat :=
  if low / size = high / size then none
  else if low % size ≠ 0 then some ((low / size + 1) * size)
  else if high % size ≠ size - 1 then some (high / size * size)
  else none

/-- Where a range of codes has to be cut so that its encodings can differ independently in each byte. -/
def cut? (low high : Nat) : Option Nat :=
  match lengthBounds.find? fun b => low < b && b ≤ high with
  | some b => some b
  | none => if high < 0x80 then none else [64, 4096, 262144].findSome? (blockBound? low high)

/-- The ranges of each byte in the encodings of a range that needs no cut. -/
def encodings (low high : Nat) : List ByteRange :=
  (String.utf8EncodeChar (Char.ofNat low)).zip (String.utf8EncodeChar (Char.ofNat high))

/-- The sequences for the codes from one to another, in order. -/
def byteSequences (low high : Nat) : List (List ByteRange) :=
  match cut? low high with
  | none => [encodings low high]
  | some b =>
    if _h : low < b ∧ b ≤ high then byteSequences low (b - 1) ++ byteSequences b high
    else [encodings low high]
termination_by high - low

/-- The sequences for a set, in order. -/
def setSequences (set : Ranges) : List (List ByteRange) := set.flatMap fun r => byteSequences r.1 r.2

end RecordQuery.Pattern
