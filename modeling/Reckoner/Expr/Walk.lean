import Reckoner.Expr.Basic

/-!
# Walking a tree with an explicit stack

Trees that do not come from the parser may be deeper than the native stack is tall, so everything
that visits a whole tree before a depth bound has been checked keeps its own list of what is still
to be done. Each walk takes one item off that list at a time and puts back strictly less work than
it took, which is why it ends: an operator node of weight `2 * size` is exchanged for its two
operands and a reminder of weight one.

`Expr.measuredHeight` and `Expr.rendered` are the walks for height and rendering; the compiler, in
`Reckoner.Compiler`, is the third and shares the list of reminders with the second.
-/

namespace Reckoner.Expr

/-- What is still to be done in a walk that treats operands before their operator. -/
inductive Pending where
  /-- A subtree that has not been looked at. -/
  | visit (e : Expr)
  /-- An operator whose two operands have been dealt with. -/
  | finish (op : Operator)
  deriving DecidableEq, Repr

/-- How much work an item stands for. -/
def Pending.weight : Pending → Nat
  | visit e => 2 * e.size
  | finish _ => 1

/-- How much work a list of items stands for. -/
def Pending.load : List Pending → Nat
  | [] => 0
  | item :: todo => item.weight + Pending.load todo

@[simp] theorem Pending.load_cons (item : Pending) (todo : List Pending) :
    Pending.load (item :: todo) = item.weight + Pending.load todo := rfl

/-- Opening an operator node leaves less work than the node itself. -/
theorem Pending.load_open_lt (op : Operator) (l r : Expr) (todo : List Pending) :
    Pending.load (visit l :: visit r :: finish op :: todo)
      < Pending.load (visit (binary op l r) :: todo) := by
  simp only [load_cons, weight, size]
  omega

/-! ## Height -/

/-- How many nodes the listed subtrees have together. -/
def pendingSize : List (Expr × Nat) → Nat
  | [] => 0
  | (e, _) :: todo => e.size + pendingSize todo

/-- The greatest depth among `deepest` and the nodes below the listed subtrees, each listed with the
depth of its own root: the loop of `tree_height`. -/
def heightLoop : List (Expr × Nat) → Nat → Nat
  | [], deepest => deepest
  | (number _, depth) :: todo, deepest => heightLoop todo (max deepest depth)
  | (foreign _, depth) :: todo, deepest => heightLoop todo (max deepest depth)
  | (binary _ l r, depth) :: todo, deepest =>
    heightLoop ((l, depth + 1) :: (r, depth + 1) :: todo) (max deepest depth)
termination_by todo => pendingSize todo
decreasing_by all_goals (simp only [pendingSize, size]; omega)

/-- The height of a tree, measured without recursion on it (`tree_height`). -/
def measuredHeight (e : Expr) : Nat := heightLoop [(e, 0)] 0

/-! ## Rendering -/

/-- Renders the listed items onto a stack of finished texts: the loop of `render_infix`. There is no
result if an operator finds fewer than two texts to join. A foreign leaf is shown by its kind, where
the embedded loop breaks down, so the result stands for a rendering on pure trees only. -/
def renderLoop : List Pending → List String → Option (List String)
  | [], done => some done
  | .visit (number n) :: todo, done => renderLoop todo (Text.decimal n :: done)
  | .visit (foreign kind) :: todo, done => renderLoop todo (kind :: done)
  | .visit (binary op l r) :: todo, done =>
    renderLoop (.visit l :: .visit r :: .finish op :: todo) done
  | .finish op :: todo, right :: left :: done =>
    renderLoop todo (("(" ++ left ++ " " ++ op.symbolText ++ " " ++ right ++ ")") :: done)
  | .finish _ :: _, _ => none
termination_by todo => Pending.load todo
decreasing_by
  all_goals first
    | exact Pending.load_open_lt _ _ _ _
    | (simp only [Pending.load_cons, Pending.weight, size]; omega)

/-- The tree written out with a pair of parentheses around every operator, without recursion on the
tree (`render_infix`). It is the rendering of pure trees; a tree with a foreign leaf has none, and
the text that stands here for it is not one. -/
def rendered (e : Expr) : String :=
  ((renderLoop [.visit e] []).bind List.head?).getD ""

end Reckoner.Expr
