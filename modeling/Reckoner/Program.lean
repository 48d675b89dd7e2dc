import Reckoner.Operator
import Reckoner.Text.Spelling

/-!
# Programs of the stack machine

A program is a sequence of instructions in postfix order: operands stand before the operator that
uses them. Any sequence is a program; whether it runs to a value is for `Reckoner.Machine` to say.
-/

namespace Reckoner

/-- One instruction of the stack machine (`PushNumber`, `ApplyOperator`). -/
inductive Instruction where
  /-- Put a value on top of the stack. -/
  | push (value : Int)
  /-- Replace the two topmost values by the result of an operator. The lower one is its left
  operand. -/
  | apply (op : Operator)
  deriving DecidableEq, Repr

/-- An instruction as a program listing shows it. -/
def Instruction.text : Instruction → String
  | push n => "PUSH " ++ Text.decimal n
  | apply op => op.mnemonic

/-- A sequence of instructions (`Program`). -/
structure Program where
  instructions : List Instruction
  deriving DecidableEq, Repr

namespace Program

/-- The program without instructions. -/
def empty : Program := ⟨[]⟩

/-- The number of instructions. -/
def size (p : Program) : Nat := p.instructions.length

/-- One line per instruction (`disassemble`). -/
def listing (p : Program) : List String := p.instructions.map Instruction.text

/-- The program followed by one more instruction. -/
def push (p : Program) (i : Instruction) : Program := ⟨p.instructions ++ [i]⟩

/-- The program without its last instruction. The empty program stays as it is. -/
def pop (p : Program) : Program := ⟨p.instructions.dropLast⟩

/-- The first `n` instructions. -/
def take (p : Program) (n : Nat) : Program := ⟨p.instructions.take n⟩

end Program

end Reckoner
