import RecordQuery.Geometry.Reader
import RecordQuery.Number.Basic

/-! The values of fields as queries see them, and their orders. What is there but cannot be compared is one value; what
is not there, or null, is another. -/
namespace RecordQuery
set_option autoImplicit false

inductive Value where
  | string (s : String)
  | number (n : Number)
  | bool (b : Bool)
  | geometry (g : Geometry)
  /-- Present, but nothing that can be compared. -/
  | other
  /-- Absent or null. -/
  | missing
deriving Repr, Inhabited

namespace Value

/-- A JSON value as the value of a field; an object is a geometry where it reads as one. -/
def ofJson : Json → Value
  | .string s => string s
  | .bool b => bool b
  | .number n => number (Number.ofJson n)
  | .null => missing
  | .array _ => other
  | .object ms => match Geometry.ofJson (.object ms) with
    | .ok g => geometry g
    | .error _ => other

def isMissing : Value → Bool
  | missing => true
  | _ => false

def string? : Value → Option String
  | string s => some s
  | _ => none

def geometry? : Value → Option Geometry
  | geometry g => some g
  | _ => none

/-- Equality of values of one kind and, for numbers, of one representation. -/
def equal : Value → Value → Bool
  | string s, string t => decide (s = t)
  | number m, number n => m == n
  | bool a, bool b => a == b
  | geometry g, geometry h => g == h
  | other, other => true
  | missing, missing => true
  | _, _ => false

instance : BEq Value := ⟨equal⟩

/-! ## Orders

The natural order stays within a kind. The one by which results are sorted ranks the kinds and leaves nothing without a
place. -/

/-- The natural order of two strings, numbers or booleans. What is missing comes after everything else; values of
different kinds, and geometries, have no order. -/
def compare? : Value → Value → Option Ordering
  | missing, missing => some .eq
  | missing, _ => some .gt
  | _, missing => some .lt
  | string s, string t => some (compare s t)
  | number m, number n => m.compare? n
  | bool a, bool b => some (compare a b)
  | _, _ => none

/-- The rank of a kind in a column that mixes them. -/
def rank : Value → Nat
  | bool _ => 0
  | number _ => 1
  | string _ => 2
  | geometry _ => 3
  | other => 4
  | missing => 5

/-- The order by which results are sorted: the natural one where there is one; doubles that are no numbers by the
total order of doubles; all else by rank. -/
def sortCompare (a b : Value) : Ordering :=
  match a, b with
  | number m, number n => (m.compare? n).getD (m.toBinary64.totalCompare n.toBinary64)
  | a, b => (a.compare? b).getD (compare a.rank b.rank)

end Value

end RecordQuery
