/-! Sets of characters as lists of code point ranges: their operations, and their notation by run lengths. Maps between
characters of different case are kept as runs too, of characters at equal distances. -/
namespace RecordQuery.Unicode
set_option autoImplicit false

/-- A set of code points, as the inclusive bounds of its ranges. The ranges are in order, and there is a gap between
any two. -/
abbrev Ranges := List (Nat × Nat)

namespace Ranges

/-- Whether a code point is in the set. The search ends at the first range beyond it. -/
def contains : Ranges → Nat → Bool
  | [], _ => false
  | r :: rs, c => if c < r.1 then false else c ≤ r.2 || contains rs c

/-- The number of code points in the set. -/
def count (rs : Ranges) : Nat := rs.foldl (fun n r => n + (r.2 + 1 - r.1)) 0

/-! ## Operations -/

/-- Joins ranges in the order of their lower bounds to one that is open, where they meet or touch. -/
def joinTo (opened : Nat × Nat) : List (Nat × Nat) → Ranges
  | [] => [opened]
  | r :: rs => if r.1 ≤ opened.2 + 1 then joinTo (opened.1, max opened.2 r.2) rs else opened :: joinTo r rs

/-- The set of ranges that come in the order of their lower bounds. -/
def ofSorted : List (Nat × Nat) → Ranges
  | [] => []
  | r :: rs => joinTo r rs

/-- The set of any ranges. -/
def ofList (rs : List (Nat × Nat)) : Ranges := ofSorted (rs.mergeSort fun r s => r.1 ≤ s.1)

/-- The set of single code points. -/
def ofCodes (cs : List Nat) : Ranges := ofList (cs.map fun c => (c, c))

def union (a b : Ranges) : Ranges := ofSorted (List.merge a b fun r s => r.1 ≤ s.1)

/-- The last code point. -/
def lastCode : Nat := 0x10FFFF

/-- The code points that are no characters. -/
def surrogates : Ranges := [(0xD800, 0xDFFF)]

/-- What lies from a code point on outside the ranges. -/
def gapsFrom (start : Nat) : Ranges → Ranges
  | [] => if start ≤ lastCode then [(start, lastCode)] else []
  | r :: rs => if start < r.1 then (start, r.1 - 1) :: gapsFrom (r.2 + 1) rs else gapsFrom (r.2 + 1) rs

/-- Every character outside the set. -/
def compl (a : Ranges) : Ranges := gapsFrom 0 (union a surrogates)

/-- Every character. -/
def all : Ranges := compl []

def inter (a b : Ranges) : Ranges := compl (union (compl a) (compl b))

def diff (a b : Ranges) : Ranges := compl (union (compl a) b)

def symmDiff (a b : Ranges) : Ranges := diff (union a b) (inter a b)

/-- The characters from one to another. -/
def between (low high : Nat) : Ranges := diff [(low, high)] surrogates

/-! ## Run lengths -/

/-- The value of a digit in base 36. -/
def digitValue (c : Char) : Nat := if c.isDigit then c.toNat - 48 else c.toNat - 87

/-- The numbers written in a text, separated by anything that is no digit. -/
def runLengths : List Char → Option Nat → List Nat
  | [], none => []
  | [], some n => [n]
  | c :: cs, current =>
    if c.isDigit || c.isLower then runLengths cs (some (36 * current.getD 0 + digitValue c))
    else match current with
      | none => runLengths cs none
      | some n => n :: runLengths cs none

/-- The ranges that run lengths describe from code point `start` on. -/
def ofRunLengths : List Nat → Nat → Ranges
  | outside :: inside :: rest, start =>
    (start + outside, start + outside + inside - 1) :: ofRunLengths rest (start + outside + inside)
  | _, _ => []

/-- The set written as run lengths, in base 36: the first is that of a run outside the set, the next that of a run
inside, and so on in turn. -/
def ofRuns (runs : String) : Ranges := ofRunLengths (runLengths runs.toList none) 0

end Ranges

/-- A named set of characters. -/
structure Property where
  names : List String
  runs : String

def Property.ranges (p : Property) : Ranges := Ranges.ofRuns p.runs

/-! ## Maps -/

/-- Characters `first`, `first + step`, … up to `last` map to as many characters from `target` at equal distances. -/
structure CaseRun where
  first : Nat
  last : Nat
  step : Nat
  target : Nat

namespace CaseRun

/-- The image of a character that the run covers. -/
def map? (r : CaseRun) (c : Nat) : Option Nat :=
  if r.first ≤ c ∧ c ≤ r.last ∧ (c - r.first) % r.step = 0 then some (r.target + (c - r.first)) else none

/-- Every character of the run with its image. -/
def pairs (r : CaseRun) : List (Nat × Nat) :=
  (List.range ((r.last - r.first) / r.step + 1)).map fun i => (r.first + i * r.step, r.target + i * r.step)

end CaseRun

end RecordQuery.Unicode
