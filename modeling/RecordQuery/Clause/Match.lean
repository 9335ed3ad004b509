import RecordQuery.Clause.Basic
import RecordQuery.Geometry.Box
import RecordQuery.Record
import RecordQuery.Text.Basic
import RecordQuery.Value.Basic

/-! Matching clauses with records. A missing field meets only the tests for null; every other comparison needs a
value on both sides. -/
namespace RecordQuery
set_option autoImplicit false

/-- Whether one list of characters occurs in another. -/
def occursIn (needle : List Char) : List Char → Bool
  | [] => needle.isEmpty
  | c :: cs => needle.isPrefixOf (c :: cs) || occursIn needle cs

namespace Lookup

/-- Whether a string stands to a pattern as a lookup for strings asks. -/
def matchString (l : Lookup) (field pattern : String) : Bool :=
  let field := (if l.ignoresCase then Text.lowercase field else field).toList
  let pattern := pattern.toList
  match l with
  | iexact => decide (field = pattern)
  | contains | icontains => occursIn pattern field
  | startsWith | istartsWith => pattern.isPrefixOf field
  | endsWith | iendsWith => pattern.isSuffixOf field
  | _ => false

/-- Whether a field's geometry stands to another as a lookup asks: equal, or in a relation of their boxes. -/
def matchGeometry (l : Lookup) (field : Value) (operand : Geometry) : Bool :=
  match field.geometry? with
  | none => false
  | some g =>
    if l = exact then g == operand
    else match g.box?, operand.box? with
      | some b, some c =>
        match l with
        | boxContains => b.contains c
        | boxOverlaps => b.intersects c
        | contained => c.contains b
        | _ => false
      | _, _ => false

/-- Whether a field's value stands in the order to a scalar that the lookup asks for. -/
def matchScalar (l : Lookup) (field : Value) (operand : ClauseValue) : Bool :=
  match operand.value? with
  | some v => (field.compare? v).any l.accepts
  | none => false

/-- Whether a field's value stands in the order to another field's that the lookup asks for. -/
def matchField (l : Lookup) (field second : Value) : Bool :=
  !second.isMissing && (field.compare? second).any l.accepts

/-- Whether a value that is there meets a clause's lookup and value; `read` gives the values of other fields. -/
def matchPresent (l : Lookup) (read : String → Value) (field : Value) (value : ClauseValue) : Bool :=
  match value with
  | .field other => l.matchField field (read other)
  | .pattern p => field.string?.any p.matchesIn
  | .string s => if l.isForStrings then field.string?.any (l.matchString · s) else l.matchScalar field value
  | .list items =>
    match l, items with
    | oneOf, items => items.any (matchScalar exact field)
    | range, [low, high] => matchScalar gte field low && matchScalar lte field high
    | _, _ => false
  | .geometry g => l.matchGeometry field g
  | value => l.matchScalar field value

/-- Whether a value meets a clause's lookup and value. -/
def matchValue (l : Lookup) (read : String → Value) (field : Value) (value : ClauseValue) : Bool :=
  match value, l with
  | .bool expected, isNull => field.isMissing == expected
  | .null, _ => field.isMissing
  | value, l => !field.isMissing && l.matchPresent read field value

end Lookup

/-- Whether a record meets a clause. -/
def Clause.holds {R : Type} [Record R] (c : Clause) (r : R) : Bool :=
  c.lookup.matchValue (Record.value r) (Record.value r c.field) c.value

end RecordQuery
