import Reckoner.Proofs.ParserExactness

/-!
# Heights that are counted and heights that are there

The height of a tree is kept in two places by code that does not recurse on the tree. The walk with
a list of pending subtrees counts depths on its way down, and the parser counts levels on its way
up, while the tree is being built. Both come to the height by recursion, `Expr.height`.

The walk is a loop, and that it ends is part of the statement; so it is taken apart into rounds
(`Measuring.next?`). Two quantities describe a moment of it. The nodes below the pending subtrees
become one fewer with every round, whether the round meets a leaf or an operator, because an
operator is exchanged for what lies below it (`pendingSize_next`). And the greatest depth that the
walk will have seen in the end is the same at every moment (`reach_next`). At the start the first of
them is the size of the tree and the second its height; when nothing is pending the second is the
answer. Hence the walk is through after exactly as many rounds as the tree has nodes.

The parser adds one for every operator of a term and takes the greater of two heights for every
operator of a sum, without looking at a tree. That both rules keep the height is part of what it
means that a reader is exact (`Reader.Exact`), wherever in a text it starts.
-/

namespace Reckoner

/-! ## The walk, round by round -/

namespace Expr

/-- A moment of the walk: the subtrees that are still to be looked at, each with the depth at which
it lies, and the greatest depth so far. -/
structure Measuring where
  todo : List (Expr × Nat)
  deepest : Nat
  deriving DecidableEq, Repr

/-- What takes the place of a node on the list: the operands one level down, if there are any. -/
def operandsBelow (depth : Nat) : Expr → List (Expr × Nat)
  | number _ => []
  | foreign _ => []
  | binary _ l r => [(l, depth + 1), (r, depth + 1)]

namespace Measuring

/-- One round of the walk, unless there is nothing left to look at. -/
def next? (s : Measuring) : Option Measuring :=
  match s.todo with
  | [] => none
  | (e, depth) :: todo => some ⟨operandsBelow depth e ++ todo, max s.deepest depth⟩

/-- The walk after a number of rounds, if it takes that many. -/
def after : Nat → Measuring → Option Measuring
  | 0, s => some s
  | n + 1, s => s.next?.bind (after n)

/-- The walk before its first round. -/
def start (e : Expr) : Measuring := ⟨[(e, 0)], 0⟩

/-- The greatest depth that the walk will have seen in the end. -/
def reach (s : Measuring) : Nat :=
  (s.todo.map fun (e, depth) => depth + e.height).foldr max s.deepest

/-! ### What a round does -/

variable {s s' : Measuring}

theorem next?_eq_some_iff :
    s.next? = some s' ↔ ∃ e depth todo, s.todo = (e, depth) :: todo
      ∧ s' = ⟨operandsBelow depth e ++ todo, max s.deepest depth⟩ := by
  rw [next?]
  cases s.todo with
  | nil => simp
  | cons item todo =>
    obtain ⟨e, depth⟩ := item
    simp [eq_comm]

/-- **A round is one of the loop.** -/
theorem heightLoop_next (h : s.next? = some s') :
    heightLoop s'.todo s'.deepest = heightLoop s.todo s.deepest := by
  obtain ⟨e, depth, todo, htodo, rfl⟩ := next?_eq_some_iff.mp h
  rw [htodo]
  cases e with
  | number n => rw [heightLoop]; rfl
  | foreign kind => rw [heightLoop]; rfl
  | binary op l r => rw [heightLoop]; rfl

/-- **A round leaves one node fewer to look at.** -/
theorem pendingSize_next (h : s.next? = some s') :
    pendingSize s.todo = pendingSize s'.todo + 1 := by
  obtain ⟨e, depth, todo, htodo, rfl⟩ := next?_eq_some_iff.mp h
  rw [htodo]
  cases e with
  | number n => simp only [operandsBelow, List.nil_append, pendingSize, size]; omega
  | foreign kind => simp only [operandsBelow, List.nil_append, pendingSize, size]; omega
  | binary op l r =>
    simp only [operandsBelow, List.cons_append, List.nil_append, pendingSize, size]
    omega

theorem foldr_max_max (a b : Nat) (depths : List Nat) :
    depths.foldr max (max a b) = max b (depths.foldr max a) := by
  induction depths with
  | nil => exact Nat.max_comm a b
  | cons d depths ih =>
    rw [List.foldr_cons, List.foldr_cons, ih]
    omega

/-- **A round does not change how deep the walk will get.** -/
theorem reach_next (h : s.next? = some s') : s'.reach = s.reach := by
  obtain ⟨e, depth, todo, htodo, rfl⟩ := next?_eq_some_iff.mp h
  simp only [reach, htodo, List.map_cons, List.foldr_cons, List.map_append, List.foldr_append,
    foldr_max_max]
  cases e with
  | number n => exact Nat.max_comm _ _
  | foreign kind => exact Nat.max_comm _ _
  | binary op l r =>
    -- The node lies above its operands, and what it adds is seen one level down.
    simp only [operandsBelow, List.map_cons, List.map_nil, List.foldr_cons, List.foldr_nil, height]
    omega

/-- As long as there are nodes to look at the walk goes on. -/
theorem exists_next (h : pendingSize s.todo ≠ 0) : ∃ s', s.next? = some s' := by
  obtain ⟨todo, deepest⟩ := s
  cases todo with
  | nil => exact absurd rfl h
  | cons item todo => exact ⟨_, rfl⟩

theorem eq_nil_of_pendingSize {todo : List (Expr × Nat)} (h : pendingSize todo = 0) :
    todo = [] := by
  cases todo with
  | nil => rfl
  | cons item todo =>
    have hpos := item.1.size_pos
    simp only [pendingSize] at h
    omega

/-! ### What any number of rounds does -/

/-- **The walk takes as many rounds as there are nodes to look at**, and on the way both quantities
are what they have to be. -/
theorem exists_after {n : Nat} (h : n ≤ pendingSize s.todo) :
    ∃ s', after n s = some s' ∧ pendingSize s'.todo + n = pendingSize s.todo
      ∧ s'.reach = s.reach := by
  induction n generalizing s with
  | zero => exact ⟨s, rfl, rfl, rfl⟩
  | succ n ih =>
    obtain ⟨next, hnext⟩ := exists_next (s := s) (by omega)
    have hsize := pendingSize_next hnext
    obtain ⟨s', hafter, hleft, hreach⟩ := ih (s := next) (by omega)
    refine ⟨s', ?_, by omega, hreach.trans (reach_next hnext)⟩
    rw [after, hnext, Option.bind_some, hafter]

theorem after_eq_none {n : Nat} (h : pendingSize s.todo < n) : after n s = none := by
  induction n generalizing s with
  | zero => omega
  | succ n ih =>
    rw [after]
    cases hnext : s.next? with
    | none => rfl
    | some next =>
      have hsize := pendingSize_next hnext
      rw [Option.bind_some, ih (by omega)]

theorem pendingSize_start (e : Expr) : pendingSize (start e).todo = e.size := by
  simp [start, pendingSize]

theorem reach_start (e : Expr) : (start e).reach = e.height := by
  simp [start, reach]

/-- After as many rounds as the tree has nodes nothing is left, and the height is found. -/
theorem after_size (e : Expr) : after e.size (start e) = some ⟨[], e.height⟩ := by
  obtain ⟨⟨todo, deepest⟩, hafter, hleft, hreach⟩ :=
    exists_after (Nat.le_of_eq (pendingSize_start e).symm)
  have hnone : pendingSize todo = 0 := by
    rw [pendingSize_start] at hleft
    dsimp only at hleft
    omega
  obtain rfl : todo = [] := eq_nil_of_pendingSize hnone
  rw [reach_start] at hreach
  rw [hafter, ← hreach]
  rfl

end Measuring

end Expr

/-! ## What the parser counts -/

namespace Parser

variable {bound : Int} {s : List Char} {p : Parsed}

theorem Reader.Exact.height_eq {α : Type} {reader : Reader} {levels : List Level}
    {text : α → List Char} {tree : α → Expr} {admitted : α → Prop}
    (hexact : reader.Exact levels text tree admitted bound) (h : reader.read s = .ok p) :
    p.height = p.tree.height := by
  obtain ⟨a, _, _, _, _, htree, hheight, _⟩ := hexact.sound h
  rw [hheight, htree]

theorem height_of_term (h : term bound s = .ok p) : p.height = p.tree.height := by
  rw [term_eq_read] at h
  exact ((exact_numeral bound).chain (by decide)).height_eq h

theorem height_of_expression (h : expression bound s = .ok p) : p.height = p.tree.height := by
  rw [expression_eq_read] at h
  exact (exact_expression bound).height_eq h

end Parser

open Reckoner.Expr Reckoner.Parser

/-- **The heights agree.** A round of the walk is one of the loop that measures. On every tree, with
or without foreign leaves, the walk goes on for as many rounds as the tree has nodes and for no
more, and then it is left with the height by recursion and with nothing pending; so the measured
height is the height. And whenever a term or an expression has been read, under any bound and from
any place of any text, the height that was kept is the measured height of the tree that was built.
-/
theorem heights_agree :
    (∀ s s' : Measuring, s.next? = some s' →
        heightLoop s'.todo s'.deepest = heightLoop s.todo s.deepest)
      ∧ (∀ e : Expr,
          Measuring.after e.size (.start e) = some ⟨[], e.height⟩
            ∧ (∀ n, e.size < n → Measuring.after n (.start e) = none)
            ∧ e.measuredHeight = e.height)
      ∧ ∀ (bound : Int) (s : List Char) (p : Parsed),
          term bound s = .ok p ∨ expression bound s = .ok p →
          p.height = p.tree.measuredHeight := by
  refine ⟨fun s s' => Measuring.heightLoop_next, ?_, ?_⟩
  · intro e
    refine ⟨Measuring.after_size e, ?_, measuredHeight_eq_height e⟩
    intro n hn
    exact Measuring.after_eq_none (by rwa [Measuring.pendingSize_start])
  · intro bound s p h
    rw [measuredHeight_eq_height]
    rcases h with hterm | hexpression
    · exact height_of_term hterm
    · exact height_of_expression hexpression

/-- A product and a sum, both read from the middle of a text that is no expression. The height of
the product is the number of its operators, and that of the sum is less. -/
theorem heights_agree_in_the_middle :
    (let product : Parsed :=
        ⟨.binary .div (.binary .mul (.number 2) (.number 3)) (.number 4), 2, "-5)".toList⟩
    term 7 ("(1+2*3/4 -5)".toList.drop 3) = .ok product
      ∧ product.height = product.tree.measuredHeight)
      ∧ (let sum : Parsed :=
          ⟨.binary .add (.binary .mul (.number 1) (.number 2))
            (.binary .mul (.number 3) (.number 4)), 2, ")".toList⟩
        expression 7 ("(1*2 + 3*4)".toList.drop 1) = .ok sum
          ∧ sum.height = sum.tree.measuredHeight) := by
  have hproduct : term 7 ("(1+2*3/4 -5)".toList.drop 3)
      = .ok ⟨.binary .div (.binary .mul (.number 2) (.number 3)) (.number 4), 2,
          "-5)".toList⟩ := by
    decide +kernel
  have hsum : expression 7 ("(1*2 + 3*4)".toList.drop 1)
      = .ok ⟨.binary .add (.binary .mul (.number 1) (.number 2))
          (.binary .mul (.number 3) (.number 4)), 2, ")".toList⟩ := by
    decide +kernel
  exact ⟨⟨hproduct, heights_agree.2.2 _ _ _ (Or.inl hproduct)⟩, hsum,
    heights_agree.2.2 _ _ _ (Or.inr hsum)⟩

end Reckoner
