import Reckoner.Proofs.ExactValue
import Reckoner.Proofs.ProgramFaults
import Reckoner.Proofs.WordInvariant

/-!
# The operations that an executor carries out

An executor computes by applying operators to pairs of values, and it stops at the first application
that has no result. This file says which applications those are: of the machine, the ones at the
instructions that its run comes to, with the operands that lie on the stack there; of the
interpreter, the ones at the nodes that it calls itself on, once both operands have been returned.

Two things are proved of them. An arithmetic error is the error of an application that was made
(`exists_applies_of_outcome`). And an application belongs to a node of the tree and has the values
of the node's operands (`Executor.Applies.exists_node`), so that what holds of all nodes of a tree
holds of everything that is ever applied. For the interpreter this is immediate, since its calls go
down the tree. For the machine, which knows of no tree, the run is accompanied by the run on trees:
a tree that was built once stays inside some tree on the stack, and at the end there is one tree.
-/

namespace Reckoner

/-! ## Subtrees -/

namespace Expr

theorem mem_subtrees_self (e : Expr) : e ∈ e.subtrees := by
  cases e <;> simp [subtrees]

theorem mem_subtrees_of_left {s l : Expr} (h : s ∈ l.subtrees) (op : Operator) (r : Expr) :
    s ∈ (binary op l r).subtrees := by
  simp [subtrees, h]

theorem mem_subtrees_of_right {s r : Expr} (h : s ∈ r.subtrees) (op : Operator) (l : Expr) :
    s ∈ (binary op l r).subtrees := by
  simp [subtrees, h]

theorem operands_mem_subtrees {e l r : Expr} {op : Operator} (h : binary op l r ∈ e.subtrees) :
    l ∈ e.subtrees ∧ r ∈ e.subtrees := by
  induction e with
  | number n => simp [subtrees] at h
  | foreign kind => simp [subtrees] at h
  | binary op' l' r' ihl ihr =>
    simp only [subtrees, List.mem_append, List.mem_singleton] at h
    rcases h with (hl | hr) | heq
    · obtain ⟨hl, hr⟩ := ihl hl
      exact ⟨mem_subtrees_of_left hl op' r', mem_subtrees_of_left hr op' r'⟩
    · obtain ⟨hl, hr⟩ := ihr hr
      exact ⟨mem_subtrees_of_right hl op' l', mem_subtrees_of_right hr op' l'⟩
    · cases heq
      exact ⟨mem_subtrees_of_left (mem_subtrees_self l) op r,
        mem_subtrees_of_right (mem_subtrees_self r) op l⟩

end Expr

/-! ## The machine -/

namespace Machine

/-- The run of the program comes to an instruction that applies the operator to these values. -/
def Applies (p : Program) (op : Operator) (left right : Int) : Prop :=
  ∃ n below, p.instructions[n]? = some (.apply op)
    ∧ exec 0 [] (p.instructions.take n) = .ok (right :: left :: below)

/-- A run that fails comes to an instruction that fails. -/
theorem exists_step_of_exec_error {index : Nat} {stack : Stack} {code : List Instruction}
    {e : ExecutionError} (h : exec index stack code = .error e) :
    ∃ n i stack', code[n]? = some i ∧ exec index stack (code.take n) = .ok stack'
      ∧ step (index + n) stack' i = .error e := by
  induction code generalizing index stack with
  | nil => cases h
  | cons i code ih =>
    rw [exec_cons] at h
    rcases hstep : step index stack i with e' | next
    · rw [hstep] at h
      cases h
      exact ⟨0, i, stack, rfl, rfl, hstep⟩
    · rw [hstep] at h
      obtain ⟨n, j, stack', hj, hexec, hfail⟩ := ih h
      refine ⟨n + 1, j, stack', hj, ?_, ?_⟩
      · rw [List.take_succ_cons, exec_cons, hstep]
        exact hexec
      · rwa [Nat.add_assoc, Nat.add_comm 1] at hfail

theorem step_eq_arithmetic {index : Nat} {stack : Stack} {i : Instruction}
    {cause : ArithmeticError} (h : step index stack i = .error (.arithmetic cause)) :
    ∃ op right left below, i = .apply op ∧ stack = right :: left :: below
      ∧ op.apply left right = .error cause := by
  cases i with
  | push n => cases h
  | apply op =>
    match stack with
    | right :: left :: below =>
      rw [step_apply_cons_cons] at h
      rcases happ : op.apply left right with cause' | v
      · rw [happ] at h
        cases h
        exact ⟨op, right, left, below, rfl, rfl, happ⟩
      · rw [happ] at h
        cases h

theorem exists_applies_of_run {p : Program} {cause : ArithmeticError}
    (h : run p = .error (.arithmetic cause)) :
    ∃ op a b, Applies p op a b ∧ op.apply a b = .error cause := by
  rcases exec_error_or_residue h with hexec | ⟨size, hsize⟩
  · obtain ⟨n, i, stack, hi, hbefore, hstep⟩ := exists_step_of_exec_error hexec
    obtain ⟨op, right, left, below, rfl, rfl, happ⟩ := step_eq_arithmetic hstep
    exact ⟨op, left, right, ⟨n, below, hi, hbefore⟩, happ⟩
  · cases hsize

/-- **A tree that was built stays.** If a tree is part of one on the stack, it is part of one on the
stack after an instruction. -/
theorem subtree_of_buildStep {s : Expr} {trees trees' : List Expr} {i : Instruction}
    (h : buildStep trees i = some trees') (hs : ∃ e ∈ trees, s ∈ e.subtrees) :
    ∃ e ∈ trees', s ∈ e.subtrees := by
  obtain ⟨e, he, hs⟩ := hs
  obtain ⟨n, rfl, rfl⟩ | ⟨op, left, right, rest, rfl, rfl, rfl⟩ := buildStep_cases h
  · exact ⟨e, List.mem_cons_of_mem _ he, hs⟩
  · simp only [List.mem_cons] at he
    rcases he with rfl | rfl | he
    · exact ⟨_, List.mem_cons_self, Expr.mem_subtrees_of_right hs op left⟩
    · exact ⟨_, List.mem_cons_self, Expr.mem_subtrees_of_left hs op right⟩
    · exact ⟨e, List.mem_cons_of_mem _ he, hs⟩

theorem subtree_of_build {s : Expr} {trees trees' : List Expr} {code : List Instruction}
    (h : build trees code = some trees') (hs : ∃ e ∈ trees, s ∈ e.subtrees) :
    ∃ e ∈ trees', s ∈ e.subtrees := by
  induction code generalizing trees with
  | nil =>
    cases h
    exact hs
  | cons i code ih =>
    obtain ⟨next, hstep, hrest⟩ := Option.bind_eq_some_iff.mp h
    exact ih hrest (subtree_of_buildStep hstep hs)

/-- An operator that the run of a listing comes to belongs to a node of the tree. -/
theorem Applies.exists_node {e : Expr} (hpure : e.Pure) {op : Operator} {a b : Int}
    (h : Applies ⟨e.postorder⟩ op a b) :
    ∃ l r, .binary op l r ∈ e.subtrees ∧ Interpreter.evaluateFreely l = .ok a
      ∧ Interpreter.evaluateFreely r = .ok b := by
  obtain ⟨n, below, hi, hexec⟩ := h
  dsimp only at hi hexec
  obtain ⟨trees, hbuild, hvalues, _⟩ := counted_of_exec hexec
  obtain ⟨r, trees, rfl, hr, hvalues⟩ := List.map_eq_cons_iff.mp hvalues
  obtain ⟨l, trees, rfl, hl, _⟩ := List.map_eq_cons_iff.mp hvalues
  refine ⟨l, r, ?_, hl, hr⟩
  -- Behind the operator the node is the topmost tree; at the end the whole tree is the only one.
  have hnode : build [] (e.postorder.take (n + 1)) = some (.binary op l r :: trees) := by
    rw [List.take_add_one, hi, Option.toList_some, build_append, hbuild]
    rfl
  have hrest : build (.binary op l r :: trees) (e.postorder.drop (n + 1)) = some [e] := by
    have hall := build_postorder hpure []
    rw [← List.take_append_drop (n + 1) e.postorder, build_append, hnode] at hall
    exact hall
  obtain ⟨e', he', hs⟩ :=
    subtree_of_build hrest ⟨_, List.mem_cons_self, Expr.mem_subtrees_self _⟩
  rwa [List.mem_singleton.mp he'] at hs

end Machine

/-! ## The interpreter -/

namespace Interpreter

/-- The evaluation of the tree calls itself on a node of this operator, and the calls on the
operands return these values. -/
def Applies (bound : Nat) (e : Expr) (op : Operator) (left right : Int) : Prop :=
  ∃ depth l r, Calls bound e depth (.binary op l r) ∧ depth < bound
    ∧ evaluateAt bound (depth + 1) l = .ok left ∧ evaluateAt bound (depth + 1) r = .ok right

theorem exists_applies_of_evaluateAt {bound depth : Nat} {e s : Expr} {cause : ArithmeticError}
    (hcalls : Calls bound e depth s)
    (h : evaluateAt bound depth s = .error (.arithmetic cause)) :
    ∃ op a b, Applies bound e op a b ∧ op.apply a b = .error cause := by
  induction s generalizing depth with
  | number n => cases h
  | foreign kind => cases h
  | binary op l r ihl ihr =>
    rcases Nat.lt_or_ge depth bound with hlt | hge
    · rw [evaluateAt_binary_of_lt op l r hlt, combine_eq_error_iff] at h
      rcases h with hl | ⟨a, ha, hr⟩ | ⟨a, b, cause', ha, hb, happ, hcause⟩
      · exact ihl (hcalls.left hlt) hl
      · exact ihr (hcalls.right hlt ha) hr
      · cases hcause
        exact ⟨op, a, b, ⟨depth, l, r, hcalls, hlt, ha, hb⟩, happ⟩
    · rw [evaluateAt_binary_of_le op l r hge] at h
      cases h

theorem mem_subtrees_of_calls {bound depth : Nat} {e s : Expr} (h : Calls bound e depth s) :
    s ∈ e.subtrees := by
  induction h with
  | root => exact e.mem_subtrees_self
  | left _ _ ih => exact (Expr.operands_mem_subtrees ih).1
  | right _ _ _ ih => exact (Expr.operands_mem_subtrees ih).2

theorem Applies.exists_node {bound : Nat} {e : Expr} {op : Operator} {a b : Int}
    (h : Applies bound e op a b) :
    ∃ l r, .binary op l r ∈ e.subtrees ∧ evaluateFreely l = .ok a ∧ evaluateFreely r = .ok b := by
  obtain ⟨depth, l, r, hcalls, _, ha, hb⟩ := h
  exact ⟨l, r, mem_subtrees_of_calls hcalls, evaluateFreely_of_evaluateAt ha (by simp),
    evaluateFreely_of_evaluateAt hb (by simp)⟩

end Interpreter

/-! ## Executors -/

namespace Executor

/-- The executor, given the tree, applies the operator to these values. -/
def Applies : Executor → Expr → Operator → Int → Int → Prop
  | interpreter bound, e, op, left, right => Interpreter.Applies bound.levels e op left right
  | vm machine, e, op, left, right =>
    ∃ p, (machine.compile e).value = .ok p ∧ Machine.Applies p op left right

variable {x : Executor} {e : Expr}

/-- **An arithmetic error is the error of an application that was made.** -/
theorem exists_applies_of_outcome {cause : ArithmeticError} (hpure : e.Pure) (hx : x.Covers e)
    (h : x.outcome e = .error (.execution (.arithmetic cause))) :
    ∃ op a b, x.Applies e op a b ∧ op.apply a b = .error cause := by
  cases x with
  | interpreter bound =>
    rw [outcome_interpreter, mapError_eq_error_iff] at h
    obtain ⟨_, herror, hcause⟩ := h
    cases hcause
    exact Interpreter.exists_applies_of_evaluateAt .root herror
  | vm machine =>
    cases hx
    rw [outcome_vm_of_pure hpure, mapError_eq_error_iff] at h
    obtain ⟨_, herror, hcause⟩ := h
    cases hcause
    rw [← Machine.run_postorder hpure] at herror
    obtain ⟨op, a, b, happlies, happ⟩ := Machine.exists_applies_of_run herror
    refine ⟨op, a, b, ⟨⟨e.postorder⟩, ?_, happlies⟩, happ⟩
    exact (Compiler.value_compileNoted e).trans (Compiler.compile_of_pure hpure)

/-- **An application belongs to a node** and has the values of the node's operands. -/
theorem Applies.exists_node {op : Operator} {a b : Int} (hpure : e.Pure) (hx : x.Covers e)
    (h : x.Applies e op a b) :
    ∃ l r, .binary op l r ∈ e.subtrees ∧ Interpreter.evaluateFreely l = .ok a
      ∧ Interpreter.evaluateFreely r = .ok b := by
  cases x with
  | interpreter bound => exact Interpreter.Applies.exists_node h
  | vm machine =>
    cases hx
    obtain ⟨p, hp, happlies⟩ := h
    have hcompile : Compiler.compile e = .ok p := (Compiler.value_compileNoted e).symm.trans hp
    rw [Compiler.compile_of_pure hpure] at hcompile
    cases hcompile
    exact Machine.Applies.exists_node hpure happlies

end Executor

end Reckoner
