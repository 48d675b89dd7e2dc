import Reckoner.Arithmetic
import Reckoner.Text.Spelling

/-!
# Expression trees

A tree has numbers at its leaves and operators inside. Whoever builds trees by other means than
`Parser.parse` may hang something else on a branch; such a leaf is `Expr.foreign`, known only by the
name of its kind, and every consumer has to say what it does with one. The parser never makes one.

Height and rendering are given here by recursion on the tree. `Reckoner.Expr.Walk` computes the same
two answers with an explicit stack, for trees deeper than the native stack allows for.
-/

namespace Reckoner

/-- An expression tree (`ExprAST`). -/
inductive Expr where
  /-- A literal value (`NumberNode`). -/
  | number (value : Int)
  /-- An operator applied to two operands, of which the left one is evaluated first
  (`BinOpNode`). -/
  | binary (op : Operator) (left right : Expr)
  /-- A leaf that is no expression, known by the name of its kind. -/
  | foreign (kind : String)
  deriving DecidableEq, Repr

namespace Expr

/-- How many operators lie on the longest way from the root to a leaf. -/
def height : Expr → Nat
  | number _ => 0
  | foreign _ => 0
  | binary _ l r => max l.height r.height + 1

/-- The number of nodes, leaves included. -/
def size : Expr → Nat
  | number _ => 1
  | foreign _ => 1
  | binary _ l r => l.size + r.size + 1

theorem size_pos (e : Expr) : 0 < e.size := by
  cases e <;> simp [size]

/-- A tree without foreign leaves. -/
def Pure : Expr → Prop
  | number _ => True
  | foreign _ => False
  | binary _ l r => l.Pure ∧ r.Pure

instance decidablePure : (e : Expr) → Decidable e.Pure
  | number _ => isTrue trivial
  | foreign _ => isFalse not_false
  | binary _ l r =>
    have := decidablePure l
    have := decidablePure r
    inferInstanceAs (Decidable (l.Pure ∧ r.Pure))

/-- A tree all of whose literals fit into a word. -/
def InRange : Expr → Prop
  | number n => Word.InRange n
  | foreign _ => True
  | binary _ l r => l.InRange ∧ r.InRange

/-- The tree written out with a pair of parentheses around every operator. A foreign leaf shows its
kind. -/
def parenthesized : Expr → String
  | number n => Text.decimal n
  | foreign kind => kind
  | binary op l r =>
    "(" ++ l.parenthesized ++ " " ++ op.symbolText ++ " " ++ r.parenthesized ++ ")"

/-- What the root of a tree is. -/
inductive Root where
  | number
  | operation
  | foreign
  deriving DecidableEq, Repr

/-- The kind of a tree's root. -/
def root : Expr → Root
  | number _ => .number
  | binary .. => .operation
  | foreign _ => .foreign

/-- The tag that marks a node of this kind in its written form. -/
def Root.tag : Root → String
  | .number => "number"
  | .operation => "binop"
  | .foreign => "foreign"

/-- The name a log line gives to a node of this kind. -/
def Root.nodeName : Root → String
  | .number => "NumberNode"
  | .operation => "BinOpNode"
  | .foreign => "ForeignNode"

end Expr

end Reckoner
