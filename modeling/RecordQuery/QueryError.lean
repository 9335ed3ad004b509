import RecordQuery.Json.Printer
import RecordQuery.Lookup

/-! Why a query cannot be applied to a set of records. -/
namespace RecordQuery
set_option autoImplicit false

inductive QueryError where
  /-- The text is no pattern, read with or without regard to case, or is too large a one. These two settle what is wrong
  with it. -/
  | invalidPattern (ignoreCase : Bool) (source : String)
  /-- The records declare their fields, and this path starts at none of them. -/
  | unknownField (path : String)
  /-- The lookup does not compare with this kind of operand. -/
  | unsupportedOperand (lookup : Lookup) (operand : String)
  /-- A range needs exactly two bounds. -/
  | invalidRange (bounds : Json)
  /-- Sets over different records cannot be joined. -/
  | foreignRecords
deriving Repr

/-- The message of an error; that of a pattern goes on with the fault, which it leaves out. -/
def QueryError.message : QueryError → String
  | invalidPattern _ _ => "invalid regex pattern"
  | unknownField path => "unknown field '" ++ path ++ "'"
  | unsupportedOperand lookup operand =>
    "lookup '" ++ lookup.name ++ "' does not accept a " ++ operand ++ " operand"
  | invalidRange bounds => "range lookup expects [low, high], got " ++ bounds.render
  | foreignRecords => "cannot union query sets over different records"

end RecordQuery
