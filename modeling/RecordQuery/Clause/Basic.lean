import RecordQuery.Lookup
import RecordQuery.Pattern.Reader
import RecordQuery.Value.Basic

/-! Clauses: conditions made ready for matching. A clause reads one field, and a second one when it compares two. -/
namespace RecordQuery
set_option autoImplicit false

/-- What a clause compares its field with. -/
inductive ClauseValue where
  | string (s : String)
  | number (n : Number)
  | bool (b : Bool)
  /-- What null is compared with: fields that are missing. -/
  | null
  | list (items : List ClauseValue)
  | pattern (p : TextPattern)
  | geometry (g : Geometry)
  | field (path : String)
deriving Repr, Inhabited

namespace ClauseValue

/-- A scalar of JSON; lists and objects are none. -/
def ofScalar? : Json → Option ClauseValue
  | .string s => some (string s)
  | .number n => some (number (Number.ofJson n))
  | .bool b => some (bool b)
  | .null => some null
  | .array _ => none
  | .object _ => none

/-- The value of a field that would equal this one, if it can be compared. -/
def value? : ClauseValue → Option Value
  | string s => some (.string s)
  | number n => some (.number n)
  | bool b => some (.bool b)
  | _ => none

end ClauseValue

structure Clause where
  field : String
  lookup : Lookup
  value : ClauseValue
deriving Repr

/-- The paths that a clause reads, its own field first. -/
def Clause.reads (c : Clause) : List String :=
  match c.value with
  | .field other => [c.field, other]
  | _ => [c.field]

end RecordQuery
