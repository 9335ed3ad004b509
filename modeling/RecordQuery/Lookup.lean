import RecordQuery.Text.Basic

/-! Lookups: the comparisons that a condition may ask for. A path may end with the name of one, after a separator;
only then is its last segment a lookup, else the whole path names a field and the lookup is equality. -/
namespace RecordQuery
set_option autoImplicit false

inductive Lookup where
  | exact
  | iexact
  | contains
  | icontains
  | startsWith
  | istartsWith
  | endsWith
  | iendsWith
  | regex
  | iregex
  | gt
  | gte
  | lt
  | lte
  | oneOf
  | range
  | isNull
  | boxContains
  | boxOverlaps
  | contained
deriving DecidableEq, Repr

namespace Lookup

def all : List Lookup :=
  [exact, iexact, contains, icontains, startsWith, istartsWith, endsWith, iendsWith, regex, iregex, gt, gte, lt,
    lte, oneOf, range, isNull, boxContains, boxOverlaps, contained]

/-- The name used in paths. -/
def name : Lookup → String
  | exact => "exact"
  | iexact => "iexact"
  | contains => "contains"
  | icontains => "icontains"
  | startsWith => "startswith"
  | istartsWith => "istartswith"
  | endsWith => "endswith"
  | iendsWith => "iendswith"
  | regex => "regex"
  | iregex => "iregex"
  | gt => "gt"
  | gte => "gte"
  | lt => "lt"
  | lte => "lte"
  | oneOf => "in"
  | range => "range"
  | isNull => "isnull"
  | boxContains => "bbcontains"
  | boxOverlaps => "bboverlaps"
  | contained => "contained"

def ofName? (name : String) : Option Lookup := all.find? (·.name == name)

/-! ## Kinds of lookup -/

/-- Whether the lookup compares strings without regard to case. -/
def ignoresCase : Lookup → Bool
  | iexact | icontains | istartsWith | iendsWith | iregex => true
  | _ => false

/-- Whether the lookup is for strings alone. -/
def isForStrings : Lookup → Bool
  | iexact | contains | icontains | startsWith | istartsWith | endsWith | iendsWith | regex | iregex => true
  | _ => false

/-- Whether the lookup compares boxes. -/
def isForBoxes : Lookup → Bool
  | boxContains | boxOverlaps | contained => true
  | _ => false

/-- Whether the lookup can compare with another field. -/
def takesField : Lookup → Bool
  | exact | gt | gte | lt | lte => true
  | _ => false

/-- Whether the lookup holds of two values in the given order. -/
def accepts : Lookup → Ordering → Bool
  | exact, o => o == .eq
  | gt, o => o == .gt
  | gte, o => o != .lt
  | lt, o => o == .lt
  | lte, o => o != .gt
  | _, _ => false

/-! ## Paths -/

/-- The field and the lookup that a path names. -/
def ofPath (path : String) : String × Lookup :=
  match Text.lastCut? path.toList with
  | some (field, last) =>
    if field.isEmpty then (path, exact)
    else match ofName? (String.ofList last) with
      | some lookup => (String.ofList field, lookup)
      | none => (path, exact)
  | none => (path, exact)

end Lookup

end RecordQuery
