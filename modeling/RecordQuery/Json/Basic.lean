import RecordQuery.Number.Binary64

/-! JSON values. A number is an integer or a double, and the two never agree: `1` and `1.0` are different values.
The members of an object stand in a list; reading puts them in the order of their keys, one member a key. -/
namespace RecordQuery
set_option autoImplicit false

/-- A JSON number, kept apart by the way it was written. -/
inductive JsonNumber where
  | int (n : Int)
  | double (x : FiniteBinary64)
deriving Repr

/-- Integers agree when they are equal, doubles when they are numerically equal. -/
def JsonNumber.equal : JsonNumber → JsonNumber → Bool
  | int m, int n => decide (m = n)
  | double x, double y => x.value == y.value
  | _, _ => false

inductive Json where
  | null
  | bool (b : Bool)
  | number (n : JsonNumber)
  | string (s : String)
  | array (items : List Json)
  | object (members : List (String × Json))
deriving Repr, Inhabited

namespace Json

/-! ## Equality -/

mutual

/-- Equality of values, numbers by `JsonNumber.equal`. -/
def equal : Json → Json → Bool
  | null, null => true
  | bool a, bool b => a == b
  | number m, number n => m.equal n
  | string s, string t => decide (s = t)
  | array xs, array ys => equalItems xs ys
  | object ms, object ns => equalMembers ms ns
  | _, _ => false

def equalItems : List Json → List Json → Bool
  | [], [] => true
  | x :: xs, y :: ys => equal x y && equalItems xs ys
  | _, _ => false

def equalMembers : List (String × Json) → List (String × Json) → Bool
  | [], [] => true
  | (k, x) :: ms, (l, y) :: ns => decide (k = l) && equal x y && equalMembers ms ns
  | _, _ => false

end

instance : BEq Json := ⟨equal⟩

/-! ## Members -/

/-- The member of a list of members with the given key. -/
def member? (key : String) : List (String × Json) → Option Json
  | [] => none
  | (k, v) :: ms => if k = key then some v else member? key ms

/-- The member of an object with the given key; other values have none. -/
def get? (key : String) : Json → Option Json
  | object ms => member? key ms
  | _ => none

/-- Adds a member in the order of the keys, in place of one with the same key. -/
def insertMember (key : String) (value : Json) : List (String × Json) → List (String × Json)
  | [] => [(key, value)]
  | (k, v) :: ms =>
    if key < k then (key, value) :: (k, v) :: ms
    else if key = k then (key, value) :: ms
    else (k, v) :: insertMember key value ms

/-! ## Doubles -/

/-- The double as a number; one that is not finite has no number to stand for it, so null does. -/
def ofBinary64 (x : Binary64) : Json :=
  match x.finite? with
  | some x => number (.double x)
  | none => null

/-! ## Kinds -/

def isNull : Json → Bool
  | null => true
  | _ => false

def isObject : Json → Bool
  | object _ => true
  | _ => false

def string? : Json → Option String
  | string s => some s
  | _ => none

def array? : Json → Option (List Json)
  | array items => some items
  | _ => none

def bool? : Json → Option Bool
  | bool b => some b
  | _ => none

/-- The name of the kind of a value. -/
def kind : Json → String
  | null => "null"
  | bool _ => "boolean"
  | number _ => "number"
  | string _ => "string"
  | array _ => "array"
  | object _ => "object"

end Json

end RecordQuery
