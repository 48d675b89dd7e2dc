import Reckoner.Arithmetic
import Reckoner.Text.Spelling

/-!
# What can go wrong

Three things can stop a text on its way to a value: it is not an expression (`SyntaxError`), its
tree cannot be turned into a program (`CompileError`), or evaluation has no result
(`ExecutionError`). Errors are causes with their data, and the wording of each cause is its
`message`. The message of an error that the library finds by itself is a single line, because
whatever was read from the outside is shown quoted.

An execution error is *internal* (`MalformedProgramError`) when no expression can be blamed for it:
only a program that no tree compiles to can underflow the stack or leave a wrong number of values
behind.
-/

namespace Reckoner

/-- A text is not an expression (`ParseError`): why, where (rows and columns count from one), and
what was left to read at that point. -/
structure SyntaxError where
  reason : String
  line : Int
  column : Int
  fragment : String
  deriving DecidableEq, Repr

namespace SyntaxError

/-- The unread rest of the text as a message shows it. -/
def shownFragment (e : SyntaxError) : String :=
  if e.fragment.isEmpty then "<end of input>" else Text.quoted e.fragment

/-- The wording of the error. -/
def message (e : SyntaxError) : String :=
  "syntax error in row " ++ Text.decimal e.line ++ ", column " ++ Text.decimal e.column ++ ": "
    ++ e.reason ++ ": " ++ e.shownFragment

end SyntaxError

/-- A tree cannot be turned into a program (`CompileError`). -/
inductive CompileError where
  /-- A leaf of a kind that no instruction stands for. -/
  | foreignNode (kind : String)
  /-- A refusal in the words of some other compiler. -/
  | reported (text : String)
  deriving DecidableEq, Repr

/-- The wording of the error. -/
def CompileError.message : CompileError → String
  | foreignNode kind => "cannot compile node of type " ++ kind
  | reported text => text

/-- An evaluation has no result (`ExecutionError`). -/
inductive ExecutionError where
  /-- An operator has no result on its operands (`DivideByZeroError`, `ArithmeticOverflowError`). -/
  | arithmetic (cause : ArithmeticError)
  /-- The tree has more levels than the interpreter may enter (`EvaluationDepthError`). -/
  | tooDeep (bound : Int)
  /-- A leaf that has no value. -/
  | unknownNode (kind : String)
  /-- Instruction number `index` applies `op`, and the stack holds only `size` values. -/
  | underflow (index : Nat) (op : Operator) (size : Nat)
  /-- The program ended with `size` values on the stack in place of one. -/
  | residue (size : Nat)
  /-- A failure in the words of some other evaluator. -/
  | reported (text : String) (operation : Option String) (internal : Bool)
  deriving DecidableEq, Repr

namespace ExecutionError

/-- The wording of the error. -/
def message : ExecutionError → String
  | arithmetic (.divisionByZero left) =>
    "attempt to divide by zero: " ++ Text.decimal left ++ " / 0"
  | arithmetic (.overflow op left right) =>
    "attempt to " ++ op.verb ++ " with overflow: "
      ++ Text.decimal left ++ " " ++ op.symbolText ++ " " ++ Text.decimal right
  | tooDeep bound => "expression tree is deeper than " ++ Text.decimal bound ++ " levels"
  | unknownNode kind => "unknown AST node type: " ++ kind
  | underflow index op size =>
    "stack underflow at instruction " ++ Text.decimal index ++ ": " ++ op.mnemonic
      ++ " needs 2 operands, stack has " ++ Text.decimal size
  | residue size =>
    "program must leave exactly one value on the stack, left " ++ Text.decimal size
  | reported text _ _ => text

/-- The name of the operation that failed. -/
def operation : ExecutionError → Option String
  | arithmetic (.divisionByZero _) => some Operator.div.verb
  | arithmetic (.overflow op _ _) => some op.verb
  | tooDeep _ => some "evaluate"
  | unknownNode _ => some "evaluate"
  | underflow _ op _ => some op.mnemonic
  | residue _ => some "run"
  | reported _ operation _ => operation

/-- Whether the fault lies with the program and not with the expression. -/
def internal : ExecutionError → Bool
  | underflow .. => true
  | residue _ => true
  | reported _ _ internal => internal
  | _ => false

end ExecutionError

/-- Any of the three failures, or one that is known only by its wording (`CalcError`). -/
inductive CalcError where
  | parse (cause : SyntaxError)
  | compile (cause : CompileError)
  | execution (cause : ExecutionError)
  | general (text : String)
  deriving DecidableEq, Repr

/-- The wording of the error. -/
def CalcError.message : CalcError → String
  | parse cause => cause.message
  | compile cause => cause.message
  | execution cause => cause.message
  | general text => text

/-- A text that is no operator's symbol was given as one. -/
structure UnknownOperator where
  symbol : String
  deriving DecidableEq, Repr

/-- The wording of the error. -/
def UnknownOperator.message (e : UnknownOperator) : String :=
  Text.quoted e.symbol ++ " is not a valid Operator"

/-- The operator written as `text`, or the complaint that there is none (`from_symbol`). -/
def Operator.ofSymbol (text : String) : Except UnknownOperator Operator :=
  match Operator.ofSymbol? text with
  | some op => .ok op
  | none => .error ⟨text⟩

end Reckoner
