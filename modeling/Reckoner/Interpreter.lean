import Reckoner.Error
import Reckoner.Expr.Basic

/-!
# The interpreter

The interpreter evaluates a tree by recursion, left operand first, and enters at most a fixed number
of levels of operators. The check is made on *entering* an operator node, so a leaf may lie at any
depth, and a tree of height `d` passes a bound of `d` exactly.

A bound lies between 1 and 500. `DepthBound` carries the proof, so whoever holds one can build an
interpreter and cannot fail.
-/

namespace Reckoner

/-- The greatest depth bound there is (`MAX_DEPTH_LIMIT`). -/
def DepthBound.limit : Nat := 500

/-- How many levels of operators may be entered. -/
structure DepthBound where
  levels : Nat
  one_le : 1 ≤ levels
  le_limit : levels ≤ DepthBound.limit
  deriving DecidableEq, Repr

/-- A number that is no depth bound was given as one. -/
structure DepthBound.OutOfRange where
  requested : Int
  deriving DecidableEq, Repr

namespace DepthBound

/-- The bound in use unless another one is asked for. -/
def standard : DepthBound := ⟨200, by decide, by decide⟩

/-- The bound of `n` levels, if there is one. -/
def ofInt? (n : Int) : Option DepthBound :=
  if h : 1 ≤ n.toNat ∧ n.toNat ≤ limit then some ⟨n.toNat, h.1, h.2⟩ else none

/-- The bound of `n` levels, or the complaint that there is none. -/
def ofInt (n : Int) : Except OutOfRange DepthBound :=
  match ofInt? n with
  | some bound => .ok bound
  | none => .error ⟨n⟩

/-- The wording of the complaint. -/
def OutOfRange.message (e : OutOfRange) : String :=
  "max_depth must be between 1 and " ++ Text.decimal limit ++ ", got " ++ Text.decimal e.requested

end DepthBound

namespace Interpreter

/-- The value of a tree whose root lies at the given depth, when `bound` levels may be entered
(`_eval`). -/
def evaluateAt (bound depth : Nat) : Expr → Except ExecutionError Int
  | .number n => .ok n
  | .foreign kind => .error (.unknownNode kind)
  | .binary op l r =>
    if bound ≤ depth then .error (.tooDeep bound)
    else
      match evaluateAt bound (depth + 1) l with
      | .error e => .error e
      | .ok left =>
        match evaluateAt bound (depth + 1) r with
        | .error e => .error e
        | .ok right =>
          match op.apply left right with
          | .ok value => .ok value
          | .error cause => .error (.arithmetic cause)

/-- The value of a tree (`TreeWalkingInterpreter.execute`, also called `evaluate`). -/
def evaluate (bound : DepthBound) (e : Expr) : Except ExecutionError Int :=
  evaluateAt bound.levels 0 e

end Interpreter

end Reckoner
