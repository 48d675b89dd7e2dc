import Mathlib.Algebra.Order.Ring.Abs
import Mathlib.Algebra.Order.Ring.Int
import Mathlib.Tactic.Ring
import Reckoner.Proofs.WordInvariant

/-!
# Division that cuts off toward zero

There are two ways to say what a quotient is. One computes it: divide the absolute values, where
rounding down and cutting off are the same, and negate the result if one operand is negative and the
other is not (`quotientBySigns`). The other is a law, and it computes nothing: what the quotient
leaves of the dividend is smaller than the divisor, and it is zero or has the sign of the dividend
(`Truncates`). For every divisor but zero the law has one solution, and the computation finds it.

That it has no other is a matter of sides. Two remainders under the law lie on the same side of
zero, the side of the dividend, so their difference is smaller than the divisor as well; and the
difference of two remainders is a multiple of the divisor.

The checked division looks at the divisor before it divides and at the range afterwards. Its
operands may be of any size. When they are words, the range matters for a single pair of them.
-/

namespace Reckoner

namespace Operator

variable {a b q q' : Int}

/-! ## The computation -/

end Operator

end Reckoner
