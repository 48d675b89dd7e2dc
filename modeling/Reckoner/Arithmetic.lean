import Reckoner.Operator
import Reckoner.Word

/-!
# Checked arithmetic

`Operator.apply` is the one place where two values become a third. It computes the exact result over
the integers and then asks whether it fits into a word, so an overflow is an error and never a
wrapped value. Division truncates toward zero, and a zero divisor is looked at *before* anything is
computed: `0` is never reported as an overflow.

Both evaluators of the library go through this function. That is what makes the failure of one
comparable with the failure of the other, operand by operand.
-/

namespace Reckoner

/-- Why two values have no result under an operator. -/
inductive ArithmeticError where
  /-- A division of `left` by zero. -/
  | divisionByZero (left : Int)
  /-- The exact result of `left op right` does not fit into a word. -/
  | overflow (op : Operator) (left right : Int)
  deriving DecidableEq, Repr

namespace Operator

/-- The result over the unbounded integers (`_OP_FUNCS`). The quotient is cut off toward zero
(`_trunc_div`), so it has the sign that the exact ratio has. -/
def exact : Operator → Int → Int → Int
  | .add, a, b => a + b
  | .sub, a, b => a - b
  | .mul, a, b => a * b
  | .div, a, b => a.tdiv b

/-- The result of `left op right` if there is one that fits into a word (`apply_operator`). The
operands themselves may lie outside the range. -/
def apply (op : Operator) (left right : Int) : Except ArithmeticError Int :=
  if op = .div ∧ right = 0 then
    .error (.divisionByZero left)
  else if Word.InRange (op.exact left right) then
    .ok (op.exact left right)
  else
    .error (.overflow op left right)

end Operator

end Reckoner
