import RecordQuery.Geometry.Reader

/-! Conditions: a path with the operand that its value is compared with. A list of conditions is a conjunction,
and a group is an operand that holds conditions of its own, scoped under the path of the outer one. -/
namespace RecordQuery
set_option autoImplicit false

/-- The right-hand side of a condition. -/
inductive Operand where
  | literal (value : Json)
  | geometry (value : Geometry)
  /-- Another field of the same record. -/
  | field (path : String)
  | group (conditions : List (String × Operand))
deriving Repr, Inhabited

/-- A path and its operand. -/
abbrev Condition := String × Operand

namespace Operand

/-- The name of the kind of an operand. -/
def kind : Operand → String
  | literal _ => "literal"
  | geometry _ => "geometry"
  | field _ => "field reference"
  | group _ => "condition group"

/-- A raw value as an operand: a geometry where it reads as one, else itself. -/
def coerce (raw : Json) : Operand :=
  match Geometry.ofJson raw with
  | .ok g => geometry g
  | .error _ => literal raw

/-- Coercion, where geometries are wanted. -/
def coerceIf (geometries : Bool) (raw : Json) : Operand := if geometries then coerce raw else literal raw

end Operand

/-! ## Written form -/

/-- An object with two members. -/
def pairJson (firstKey : String) (first : Json) (secondKey : String) (second : Json) : Json :=
  .object [(firstKey, first), (secondKey, second)]

mutual

def Operand.toJson : Operand → Json
  | .literal value => pairJson "kind" (.string "literal") "value" value
  | .geometry value => pairJson "kind" (.string "geometry") "value" value.toJson
  | .field path => pairJson "kind" (.string "field") "value" (.string path)
  | .group conditions => pairJson "kind" (.string "group") "value" (.array (conditionsJson conditions))

def conditionsJson : List (String × Operand) → List Json
  | [] => []
  | (path, operand) :: cs => pairJson "path" (.string path) "operand" operand.toJson :: conditionsJson cs

end

end RecordQuery
