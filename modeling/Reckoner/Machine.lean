import Reckoner.Error
import Reckoner.Program

/-!
# The stack machine

The machine runs through a program once, from front to back. Its state is a stack of values, listed
from the top. A push adds one value; an operator takes two and adds one, and fails if there are not
two. A run has a result when exactly one value is left.

`exec` is parametrised by the number of the next instruction and by the stack, and this is the form
that statements about runs should be made in: running `p ++ q` is running `p` and then `q` from
where `p` stopped.
-/

namespace Reckoner.Machine

/-- The values in use, from the top of the stack down. -/
abbrev Stack := List Int

/-- One instruction, which is number `index` of its program: a turn of the loop of `run`. -/
def step (index : Nat) (stack : Stack) : Instruction → Except ExecutionError Stack
  | .push n => .ok (n :: stack)
  | .apply op =>
    match stack with
    | right :: left :: rest =>
      match op.apply left right with
      | .ok value => .ok (value :: rest)
      | .error cause => .error (.arithmetic cause)
    | _ => .error (.underflow index op stack.length)

/-- A sequence of instructions, of which the first is number `index` of its program. -/
def exec (index : Nat) (stack : Stack) : List Instruction → Except ExecutionError Stack
  | [] => .ok stack
  | i :: rest =>
    match step index stack i with
    | .ok stack' => exec (index + 1) stack' rest
    | .error e => .error e

/-- The value of a whole program (`StackMachineExecutor.run`). -/
def run (p : Program) : Except ExecutionError Int :=
  match exec 0 [] p.instructions with
  | .ok [value] => .ok value
  | .ok stack => .error (.residue stack.length)
  | .error e => .error e

end Reckoner.Machine
