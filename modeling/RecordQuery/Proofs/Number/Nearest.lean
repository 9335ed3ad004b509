import Mathlib.Algebra.Order.Field.Power
import Mathlib.Data.Rat.Cast.Order
import Mathlib.Tactic.FieldSimp
import Mathlib.Tactic.Linarith
import Mathlib.Tactic.Positivity
import Mathlib.Tactic.Ring
import RecordQuery.Number.Shortest
import RecordQuery.Proofs.Number.Rounding

/-! Rounding to the nearest double, among the rationals. A double stands for a significand times a power of two, and the
quotients that are rounded to it are those of an interval that reaches half way to its neighbours. -/
namespace RecordQuery
set_option autoImplicit false

/-! ## Scaled quotients -/

section Quotients

variable {base num den : Nat}

end Quotients

namespace Decimal

end Decimal

namespace Binary64

variable {x : Binary64}

/-! ## Significands and units -/

end Binary64

end RecordQuery
