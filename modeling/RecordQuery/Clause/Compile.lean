import RecordQuery.Clause.Basic
import RecordQuery.Condition
import RecordQuery.QueryError
import RecordQuery.Text.Basic

/-! Compiling conditions to clauses. The lookup decides which operands are accepted and what becomes of them; a
group gives the clauses of its conditions, their paths scoped under the path of the group. -/
namespace RecordQuery
set_option autoImplicit false

namespace Lookup

/-- The refusal of a value of a kind that the lookup does not compare with. -/
def refusal (l : Lookup) (j : Json) : QueryError := .unsupportedOperand l j.kind

/-- A scalar to compare with. -/
def scalar (l : Lookup) (j : Json) : Except QueryError ClauseValue :=
  match ClauseValue.ofScalar? j with
  | some v => .ok v
  | none => .error (l.refusal j)

def scalars (l : Lookup) : List Json → Except QueryError (List ClauseValue)
  | [] => .ok []
  | j :: js => do
    let v ← l.scalar j
    let vs ← l.scalars js
    .ok (v :: vs)

/-- A geometry to compare with. -/
def geometryOperand (l : Lookup) (j : Json) : Except QueryError ClauseValue :=
  match Geometry.ofJson j with
  | .ok g => .ok (.geometry g)
  | .error _ => .error (l.refusal j)

def patternOperand (l : Lookup) : Json → Except QueryError ClauseValue
  | .string source =>
    let ignoreCase := l == iregex
    match TextPattern.parse? ignoreCase source with
    | some p => .ok (.pattern p)
    | none => .error (.invalidPattern ignoreCase source)
  | j => .error (l.refusal j)

/-- A string to look for, in lower case where case does not count. -/
def stringOperand (l : Lookup) : Json → Except QueryError ClauseValue
  | .string s => .ok (.string (if l.ignoresCase then Text.lowercase s else s))
  | j => .error (l.refusal j)

def listOperand (l : Lookup) : Json → Except QueryError ClauseValue
  | .array items => ClauseValue.list <$> l.scalars items
  | j => .error (l.refusal j)

/-- Two bounds, neither of them null. -/
def boundsOperand (l : Lookup) : Json → Except QueryError ClauseValue
  | .array [low, high] =>
    if low.isNull || high.isNull then .error (.invalidRange (.array [low, high]))
    else ClauseValue.list <$> l.scalars [low, high]
  | j => .error (.invalidRange j)

def truthOperand (l : Lookup) : Json → Except QueryError ClauseValue
  | .bool b => .ok (.bool b)
  | j => .error (l.refusal j)

/-- A scalar or a geometry to be equal to. -/
def equalOperand (l : Lookup) : Json → Except QueryError ClauseValue
  | .object ms => l.geometryOperand (.object ms)
  | j => l.scalar j

/-- A scalar to stand in an order with, which null does not. -/
def orderedOperand (l : Lookup) : Json → Except QueryError ClauseValue
  | .null => .error (.unsupportedOperand l "null")
  | j => l.scalar j

/-- What a raw value becomes as the operand of a lookup. -/
def literalOperand (l : Lookup) (j : Json) : Except QueryError ClauseValue :=
  match l with
  | regex | iregex => l.patternOperand j
  | oneOf => l.listOperand j
  | range => l.boundsOperand j
  | isNull => l.truthOperand j
  | boxContains | boxOverlaps | contained => l.geometryOperand j
  | iexact | contains | icontains | startsWith | istartsWith | endsWith | iendsWith => l.stringOperand j
  | exact => l.equalOperand j
  | gt | gte | lt | lte => l.orderedOperand j

end Lookup

namespace Clause

/-- The clause of a path and an operand that is no group. -/
def ofLeaf (path : String) (operand : Operand) : Except QueryError Clause := do
  let (field, lookup) := Lookup.ofPath path
  let value ← match operand with
    | .literal j => lookup.literalOperand j
    | .geometry g =>
      if lookup.isForBoxes || lookup == .exact then .ok (.geometry g)
      else .error (.unsupportedOperand lookup operand.kind)
    | .field other =>
      if lookup.takesField then .ok (.field other) else .error (.unsupportedOperand lookup operand.kind)
    | .group _ => .error (.unsupportedOperand lookup operand.kind)
  .ok ⟨field, lookup, value⟩

mutual

/-- The clauses of one condition. -/
def compile (path : String) : Operand → Except QueryError (List Clause)
  | .group conditions => compileUnder path conditions
  | .literal j => do .ok [← ofLeaf path (.literal j)]
  | .geometry g => do .ok [← ofLeaf path (.geometry g)]
  | .field other => do .ok [← ofLeaf path (.field other)]

/-- The clauses of the conditions in a group at a path. -/
def compileUnder (outer : String) : List (String × Operand) → Except QueryError (List Clause)
  | [] => .ok []
  | (inner, operand) :: conditions => do
    let first ← compile (Text.joinPath outer inner) operand
    let rest ← compileUnder outer conditions
    .ok (first ++ rest)

end

/-- The clauses of a list of conditions; the first condition that does not compile decides. -/
def compileAll : List Condition → Except QueryError (List Clause)
  | [] => .ok []
  | (path, operand) :: conditions => do
    let first ← compile path operand
    let rest ← compileAll conditions
    .ok (first ++ rest)

end Clause

end RecordQuery
