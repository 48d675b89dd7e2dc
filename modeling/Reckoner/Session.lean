import Reckoner.Compiler
import Reckoner.Expr.Postfix
import Reckoner.Expr.Walk
import Reckoner.Interpreter
import Reckoner.Machine
import Reckoner.Parser

/-!
# Sessions

A session keeps a stack of trees and a current program between its steps. A step that fails leaves
both as they were, so a session is never in a half-finished state; `Session.perform` makes this
visible in its type, by returning either an error or a new state together with an answer.
-/

namespace Reckoner

/-- What is kept between steps. -/
structure Session where
  /-- The trees, from the top of the stack down. -/
  trees : List Expr := []
  program : Program := .empty
  deriving DecidableEq, Repr

namespace Session

/-- What stays the same during a session. -/
structure Limits where
  /-- The bound of the parser. -/
  parser : Int
  /-- The bound of the interpreter. -/
  interpreter : DepthBound
  deriving DecidableEq, Repr

/-- One step of a session. -/
inductive Action where
  /-- Read an expression and put its tree on the stack. -/
  | parse (text : String)
  /-- Put a leaf on the stack. -/
  | number (value : Int)
  /-- Join the two topmost trees by the operator with a symbol. -/
  | join (symbol : String)
  /-- Put the topmost tree on the stack again. -/
  | duplicate
  /-- Drop the topmost tree. -/
  | drop
  /-- Evaluate the topmost tree with the interpreter. -/
  | interpret
  /-- Evaluate the topmost tree with the virtual machine. -/
  | execute
  /-- Make the topmost tree's program the current one. -/
  | compile
  /-- Add an instruction to the current program. -/
  | emit (token : Program.Token)
  /-- Take the last instruction off the current program. -/
  | chop
  /-- Run the current program. -/
  | run
  deriving DecidableEq, Repr

/-- What a step answers with. -/
inductive Answer where
  /-- The stack after the step: how many trees there are, and the topmost. -/
  | trees (count : Nat) (top : Option Expr)
  | value (n : Int)
  | listing (lines : List String)
  deriving DecidableEq, Repr

/-- Why a step fails. -/
inductive Failure where
  | calculation (cause : CalcError)
  | operator (cause : UnknownOperator)
  | invalid (issues : List Issue)
  /-- There are not as many trees as the step needs. -/
  | empty (needed : String)
  deriving DecidableEq, Repr

/-- What a step makes of a session. -/
abbrev Outcome := Except Failure (Session × Answer)

/-- A session with other trees, and the answer that shows them. -/
def withTrees (s : Session) (trees : List Expr) : Outcome :=
  .ok ({ s with trees }, .trees trees.length trees.head?)

/-- A session with another program, and the answer that shows it. -/
def withProgram (s : Session) (program : Program) : Outcome :=
  .ok ({ s with program }, .listing program.listing)

/-- The session as it is, and the value of an evaluation. -/
def withValue (s : Session) : Except ExecutionError Int → Outcome
  | .ok n => .ok (s, .value n)
  | .error cause => .error (.calculation (.execution cause))

/-- Does something with the topmost tree. -/
def onTop (s : Session) (act : Expr → Outcome) : Outcome :=
  match s.trees with
  | top :: _ => act top
  | [] => .error (.empty "no tree")

/-- Does something with the program of a tree. -/
def compiling (e : Expr) (act : Program → Outcome) : Outcome :=
  match Compiler.compile e with
  | .ok program => act program
  | .error cause => .error (.calculation (.compile cause))

/-- Performs a step. -/
def perform (limits : Limits) (s : Session) : Action → Outcome
  | .parse text =>
    match Parser.parse limits.parser text with
    | .ok e => s.withTrees (e :: s.trees)
    | .error cause => .error (.calculation (.parse cause))
  | .number n =>
    match Expr.leaf n with
    | .ok e => s.withTrees (e :: s.trees)
    | .error issues => .error (.invalid issues)
  | .join symbol =>
    match s.trees with
    | right :: left :: rest =>
      match Operator.ofSymbol symbol with
      | .ok op => s.withTrees (.binary op left right :: rest)
      | .error cause => .error (.operator cause)
    | _ => .error (.empty "need two trees")
  | .duplicate => s.onTop fun top => s.withTrees (top :: s.trees)
  | .drop => s.onTop fun _ => s.withTrees s.trees.tail
  | .interpret => s.onTop fun top => s.withValue (Interpreter.evaluate limits.interpreter top)
  | .execute => s.onTop fun top => compiling top fun program => s.withValue (Machine.run program)
  | .compile => s.onTop fun top => compiling top s.withProgram
  | .emit token =>
    match token.instruction with
    | .ok i => s.withProgram (s.program.push i)
    | .error issues => .error (.invalid issues)
  | .chop => s.withProgram s.program.pop
  | .run => s.withValue (Machine.run s.program)

/-- Performs several steps and collects their answers. -/
def performAll (limits : Limits) (s : Session) : List Action → List (Except Failure Answer)
  | [] => []
  | action :: rest =>
    match s.perform limits action with
    | .ok (s', answer) => .ok answer :: performAll limits s' rest
    | .error failure => .error failure :: performAll limits s rest

end Session

end Reckoner
