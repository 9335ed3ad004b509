import RecordQuery.Record
import RecordQuery.Value.Basic

/-! Sort keys: a field and a direction. A record stands before another when it does so by the first key that tells
them apart. -/
namespace RecordQuery
set_option autoImplicit false

inductive Direction where
  | ascending
  | descending
deriving DecidableEq, Repr

/-- An order seen in a direction. -/
def Direction.apply : Direction → Ordering → Ordering
  | ascending, o => o
  | descending, o => o.swap

structure OrderBy where
  field : String
  direction : Direction
deriving DecidableEq, Repr

namespace OrderBy

/-- The sort key that an entry names: a field, after a hyphen descending, after a plus sign or alone ascending. No
field and the random order, marked by a question mark, give none. -/
def parse? (entry : String) : Option OrderBy :=
  let (direction, field) : Direction × List Char := match entry.toList with
    | '-' :: field => (.descending, field)
    | '+' :: field => (.ascending, field)
    | field => (.ascending, field)
  if field = [] ∨ field = ['?'] then none else some ⟨String.ofList field, direction⟩

/-- The natural order of two values in the direction of the key. -/
def compare? (o : OrderBy) (a b : Value) : Option Ordering := (a.compare? b).map o.direction.apply

variable {R : Type} [Record R]

/-- The order of two records by one key. -/
def compareRecords (o : OrderBy) (a b : R) : Ordering :=
  o.direction.apply ((Record.value a o.field).sortCompare (Record.value b o.field))

/-- The order of two records by several keys, the earlier ones first. -/
def compareByAll : List OrderBy → R → R → Ordering
  | [], _, _ => .eq
  | o :: os, a, b =>
    match o.compareRecords a b with
    | .eq => compareByAll os a b
    | decided => decided

end OrderBy

/-! ## Stable sorting -/

universe v
variable {α : Type v}

/-- Puts an element into a list that stands in reverse order: before those that are not greater. -/
def insertReversed (cmp : α → α → Ordering) (x : α) : List α → List α
  | [] => [x]
  | y :: ys => if cmp x y = .lt then y :: insertReversed cmp x ys else x :: y :: ys

/-- The elements in order, those that compare equal in the order given. -/
def stableSort (cmp : α → α → Ordering) (xs : List α) : List α :=
  (xs.foldl (fun sorted x => insertReversed cmp x sorted) []).reverse

end RecordQuery
