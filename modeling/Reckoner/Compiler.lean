import Reckoner.Error
import Reckoner.Expr.Walk
import Reckoner.Program

/-!
# From trees to programs

Compiling a tree lists it in postorder: left operand, right operand, operator. `compileLoop` does so
with the list of pending items of `Reckoner.Expr.Walk`; `Expr.postorder` is the same listing by
recursion on the tree, for trees without foreign leaves.

The walk looks at leaves from left to right and stops at the first foreign one, before a single
instruction has been run.
-/

namespace Reckoner

/-- The instructions of a tree by recursion on it. A foreign leaf contributes none. -/
def Expr.postorder : Expr → List Instruction
  | .number n => [.push n]
  | .foreign _ => []
  | .binary op l r => l.postorder ++ r.postorder ++ [.apply op]

namespace Compiler

/-- Lists the pending items after the instructions already emitted, which are kept newest first: the
loop of `compile`. -/
def compileLoop : List Expr.Pending → List Instruction → Except CompileError (List Instruction)
  | [], emitted => .ok emitted.reverse
  | .visit (.number n) :: todo, emitted => compileLoop todo (.push n :: emitted)
  | .visit (.foreign kind) :: _, _ => .error (.foreignNode kind)
  | .visit (.binary op l r) :: todo, emitted =>
    compileLoop (.visit l :: .visit r :: .finish op :: todo) emitted
  | .finish op :: todo, emitted => compileLoop todo (.apply op :: emitted)
termination_by todo => Expr.Pending.load todo
decreasing_by
  all_goals first
    | exact Expr.Pending.load_open_lt _ _ _ _
    | (simp only [Expr.Pending.load_cons, Expr.Pending.weight, Expr.size]; omega)

/-- The program of a tree (`StackMachineExecutor.compile`). -/
def compile (e : Expr) : Except CompileError Program :=
  (compileLoop [.visit e] []).map Program.mk

end Compiler

end Reckoner
