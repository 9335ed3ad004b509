import RecordQuery.Unicode.CaseFolding
import RecordQuery.Unicode.Ranges

/-! Sets of characters and their closure under case. -/
namespace RecordQuery.Pattern
set_option autoImplicit false

open Unicode (Ranges)

/-- How characters that differ in case alone are found. -/
inductive CaseRule where
  /-- By the simple case folding. -/
  | unicode
  /-- Among the ASCII letters. -/
  | ascii
deriving DecidableEq, Repr

/-! ## Images of a set -/

/-- The second parts of the pairs whose first part is in the set. The pairs are in the order of their first parts. -/
def images : Ranges → List (Nat × Nat) → List Nat
  | [], _ => []
  | _, [] => []
  | r :: rs, p :: ps =>
    if p.1 < r.1 then images (r :: rs) ps
    else if p.1 ≤ r.2 then p.2 :: images (r :: rs) ps
    else images rs (p :: ps)
termination_by rs ps => rs.length + ps.length

/-- The set with the images of its members. -/
def withImages (set : Ranges) (pairs : List (Nat × Nat)) : Ranges :=
  Ranges.union set (Ranges.ofCodes (images set pairs))

/-! ## Case -/

/-- Pairs in the order of their first parts. -/
def inOrder (pairs : List (Nat × Nat)) : List (Nat × Nat) := pairs.mergeSort fun p q => p.1 ≤ q.1

/-- The simple case folding, as pairs of a character and its image. -/
def foldingPairs : List (Nat × Nat) := inOrder (Unicode.foldingRuns.flatMap (·.pairs))

/-- The same pairs, the image first. -/
def unfoldingPairs : List (Nat × Nat) := inOrder (foldingPairs.map fun p => (p.2, p.1))

/-- The capital letters of ASCII with the small ones. -/
def asciiPairs : List (Nat × Nat) := (List.range 26).map fun i => (0x41 + i, 0x61 + i)

namespace CaseRule

/-- Pairs of a character and the one that stands for all that differ from it in case alone. -/
def folding : CaseRule → List (Nat × Nat)
  | unicode => foldingPairs
  | ascii => asciiPairs

def unfolding : CaseRule → List (Nat × Nat)
  | unicode => unfoldingPairs
  | ascii => asciiPairs.map fun p => (p.2, p.1)

/-- The set with every character that differs in case alone from one of its members. -/
def close (rule : CaseRule) (set : Ranges) : Ranges := withImages (withImages set rule.folding) rule.unfolding

end CaseRule

end RecordQuery.Pattern
