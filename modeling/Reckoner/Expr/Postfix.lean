import Reckoner.Document.Scalar
import Reckoner.Expr.Basic
import Reckoner.Program

/-!
# Trees and programs from tokens

A tree can be given by its leaves and operators in postfix order. It is built from the bottom up on
a stack of trees, on which an operator joins the two topmost, the lower one being its left operand.
A number has to fit into a word, here as in every other way to make a leaf or an instruction.
-/

namespace Reckoner

/-- A leaf, if the number fits into a word. -/
def Expr.leaf (n : Int) : Validated Expr :=
  Validated.under (.field "value")
    ((Document.inLimits Word.least Word.greatest n).map Expr.number)

/-- An instruction that pushes a number, if it fits into a word. -/
def Instruction.pushing (n : Int) : Validated Instruction :=
  Validated.under (.field "value")
    ((Document.inLimits Word.least Word.greatest n).map Instruction.push)

namespace Expr

/-- One token of a tree in postfix order. -/
inductive Token where
  | number (n : Int)
  | operator (op : Operator)
  | foreign (kind : String)
  deriving DecidableEq, Repr

/-- Builds trees from tokens onto a stack of trees. An operator that finds fewer than two trees is
passed over. -/
def buildFrom (stack : List Expr) : List Token → Validated (List Expr)
  | [] => .ok stack
  | .number n :: rest =>
    match leaf n with
    | .ok e => buildFrom (e :: stack) rest
    | .error issues => .error issues
  | .foreign kind :: rest => buildFrom (.foreign kind :: stack) rest
  | .operator op :: rest =>
    match stack with
    | right :: left :: below => buildFrom (.binary op left right :: below) rest
    | _ => buildFrom stack rest

/-- The tree that tokens in postfix order give, if they give one. -/
def ofPostfix (tokens : List Token) : Validated (Option Expr) :=
  (buildFrom [] tokens).map List.head?

end Expr

namespace Program

/-- One token of a program. -/
inductive Token where
  | number (n : Int)
  | operator (op : Operator)
  deriving DecidableEq, Repr

/-- The instruction of a token. -/
def Token.instruction : Token → Validated Instruction
  | .number n => Instruction.pushing n
  | .operator op => .ok (.apply op)

/-- The program of several tokens. The first one that has no instruction decides. -/
def ofTokens (tokens : List Token) : Validated Program :=
  (tokens.mapM Token.instruction).map Program.mk

end Program

end Reckoner
