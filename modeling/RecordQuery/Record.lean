import RecordQuery.Text.Basic
import RecordQuery.Value.Basic

/-! Records: anything whose fields can be read by their paths. A type of records may declare its fields, and then no
others may be asked for. -/
namespace RecordQuery
set_option autoImplicit false

class Record (R : Type) where
  /-- The value of the field that a path leads to. -/
  value : R → String → Value
  /-- The names of the fields at the top, where the type declares them. -/
  declared : Option (List String)

/-- The first segment of a path. -/
def rootSegment (path : String) : String :=
  match Text.segments path.toList with
  | s :: _ => String.ofList s
  | [] => ""

/-- Whether a path starts at a field that records of the type have. -/
def Record.knows (R : Type) [Record R] (path : String) : Bool :=
  match Record.declared R with
  | some names => names.contains (rootSegment path)
  | none => true

/-! ## JSON records -/

/-- The value reached by looking up the keys one after another in nested objects. -/
def Json.follow (j : Json) : List (List Char) → Option Json
  | [] => some j
  | key :: keys => do
    let next ← j.get? (String.ofList key)
    next.follow keys

/-- JSON values are records without a schema; the segments of a path are keys of nested objects. -/
instance : Record Json where
  value j path := ((j.follow (Text.segments path.toList)).map Value.ofJson).getD .missing
  declared := none

end RecordQuery
