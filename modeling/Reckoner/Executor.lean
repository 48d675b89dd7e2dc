import Reckoner.Compiler
import Reckoner.Interpreter
import Reckoner.Log
import Reckoner.Machine
import Reckoner.Parser

/-!
# Executors

There are two ways from a tree to a value. The interpreter walks the tree, and the virtual machine
compiles it and runs the program. Both are chosen by name, and both leave notes.

The two phases of the virtual machine are a record of functions. `StackVm.standard` is the machine
of this library; another compiler or another machine can be put in the place of one phase, which is
how disagreement between executors comes about at all.
-/

namespace Reckoner

/-! ## Noted work -/

/-- Reads an expression, with a note when there is one (`PrecedenceParser.parse`). -/
def Parser.parseNoted (bound : Int) (text : String) : Logged (Except SyntaxError Expr) :=
  match Parser.parse bound text with
  | .ok e =>
    .noting .debug "rcalc.parser"
      ("Parsed " ++ Text.quoted text ++ " -> " ++ e.root.nodeName) (.ok e)
  | .error e => .quietly (.error e)

/-- Evaluates a tree, with a note when there is a value (`TreeWalkingInterpreter.execute`). -/
def Interpreter.evaluateNoted (bound : DepthBound) (e : Expr) :
    Logged (Except ExecutionError Int) :=
  match Interpreter.evaluate bound e with
  | .ok n => .noting .debug "rcalc.interpreter" ("Evaluated tree -> " ++ Text.decimal n) (.ok n)
  | .error e => .quietly (.error e)

/-- Compiles a tree, with a note when there is a program (`StackMachineExecutor.compile`). -/
def Compiler.compileNoted (e : Expr) : Logged (Except CompileError Program) :=
  match Compiler.compile e with
  | .ok p =>
    .noting .debug "rcalc.vm" ("Compiled " ++ Text.decimal p.size ++ " instructions") (.ok p)
  | .error e => .quietly (.error e)

/-- Runs a program, with a note when the program is at fault (`StackMachineExecutor.run`). -/
def Machine.runNoted (p : Program) : Logged (Except ExecutionError Int) :=
  match Machine.run p with
  | .error (.underflow index op size) =>
    .noting .warning "rcalc.vm"
      ("Stack underflow at instruction " ++ Text.decimal index ++ " (" ++ op.mnemonic ++ ")")
      (.error (.underflow index op size))
  | .error (.residue size) =>
    .noting .warning "rcalc.vm" ("Program left " ++ Text.decimal size ++ " values on the stack")
      (.error (.residue size))
  | result => .quietly result

/-! ## The virtual machine -/

/-- A virtual machine of two phases (`StackMachineExecutor`). -/
structure StackVm where
  compile : Expr → Logged (Except CompileError Program)
  run : Program → Logged (Except ExecutionError Int)

namespace StackVm

/-- The virtual machine of this library. -/
def standard : StackVm := ⟨Compiler.compileNoted, Machine.runNoted⟩

/-- The value of a tree: both phases in turn (`StackMachineExecutor.execute`). -/
def execute (vm : StackVm) (e : Expr) : Logged (Except CalcError Int) := do
  match ← vm.compile e with
  | .error cause => return .error (.compile cause)
  | .ok program =>
    match ← vm.run program with
    | .error cause => return .error (.execution cause)
    | .ok value => return .ok value

end StackVm

/-! ## Executors by name -/

/-- Which of the two executors. -/
inductive ExecutorKind where
  | interpreter
  | vm
  deriving DecidableEq, Repr

/-- A name that is no executor's was asked for. -/
structure UnknownExecutor where
  name : Text.Raw
  deriving DecidableEq, Repr

namespace ExecutorKind

/-- Every executor, in the order in which they are run and listed (`EXECUTORS`). -/
def all : List ExecutorKind := [.interpreter, .vm]

/-- The name of an executor. -/
def name : ExecutorKind → String
  | .interpreter => "interpreter"
  | .vm => "vm"

/-- The executor of a name, which has to be spelled exactly. -/
def ofName? (name : Text.Raw) : Option ExecutorKind :=
  all.find? fun kind => .text kind.name == name

/-- The executor of a name, or the complaint that there is none. -/
def ofName (name : Text.Raw) : Except UnknownExecutor ExecutorKind :=
  match ofName? name with
  | some kind => .ok kind
  | none => .error ⟨name⟩

@[simp] theorem ofName?_name (kind : ExecutorKind) : ofName? kind.name = some kind := by
  cases kind <;> decide

end ExecutorKind

namespace UnknownExecutor

/-- What is wrong. -/
def complaint (e : UnknownExecutor) : String := "unknown executor " ++ e.name.quoted

/-- What is wrong and what would be right, as a quoted text. -/
def message (e : UnknownExecutor) : String :=
  Text.quoted (e.complaint ++ ", choose from: "
    ++ ", ".intercalate (ExecutorKind.all.map ExecutorKind.name))

/-- What is wrong, as a quoted text. -/
def shortMessage (e : UnknownExecutor) : String := Text.quoted e.complaint

end UnknownExecutor

/-- An executor that is ready to run. -/
inductive Executor where
  | interpreter (bound : DepthBound)
  | vm (machine : StackVm)

namespace Executor

/-- Which executor it is. -/
def kind : Executor → ExecutorKind
  | interpreter _ => .interpreter
  | vm _ => .vm

/-- The value of a tree. -/
def execute : Executor → Expr → Logged (Except CalcError Int)
  | interpreter bound, e => do
    match ← Interpreter.evaluateNoted bound e with
    | .ok value => return .ok value
    | .error cause => return .error (.execution cause)
  | vm machine, e => machine.execute e

end Executor

end Reckoner
