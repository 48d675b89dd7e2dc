import Reckoner.Compiler
import Reckoner.Machine
import Reckoner.Proofs.Evaluation

/-!
# Compiled programs and what they run to

Two facts carry every statement about the virtual machine.

The compiler, a loop over pending items, emits the postorder listing of the tree, unless the tree
has a foreign leaf; then it stops at the first one from the left (`compile_eq`). The lemma about the
loop is stated for one item in front of any others and after any instructions already emitted, so
that the items an operator node is exchanged for are three uses of it.

The machine, run over such a listing from any stack, does what the recursion on the tree does and
puts the value on top (`exec_postorder`). An operator of the listing always finds its two operands,
because they are the values of the two listings in front of it; so the numbering of instructions,
which only a complaint about a short stack would show, plays no part.
-/

namespace Reckoner

/-! ## Foreign leaves -/

/-- The kind of the first foreign leaf from the left. -/
def Expr.firstForeign? : Expr → Option String
  | .number _ => none
  | .foreign kind => some kind
  | .binary _ l r => l.firstForeign?.or r.firstForeign?

theorem Expr.firstForeign?_eq_none_iff (e : Expr) : e.firstForeign? = none ↔ e.Pure := by
  induction e with
  | number n => simp [firstForeign?, Pure]
  | foreign kind => simp [firstForeign?, Pure]
  | binary op l r ihl ihr => rw [firstForeign?, Option.or_eq_none_iff, ihl, ihr, Pure]

namespace Compiler

/-! ## The compiler's loop -/

/-- What the loop makes of a subtree at the head of the list: it emits the subtree's listing and
goes on, or it stops at the subtree's first foreign leaf. -/
theorem compileLoop_visit (e : Expr) (todo : List Expr.Pending) (emitted : List Instruction) :
    compileLoop (.visit e :: todo) emitted
      = match e.firstForeign? with
        | some kind => .error (.foreignNode kind)
        | none => compileLoop todo (e.postorder.reverse ++ emitted) := by
  induction e generalizing todo emitted with
  | number n => rw [compileLoop]; rfl
  | foreign kind => rw [compileLoop]; rfl
  | binary op l r ihl ihr =>
    rw [compileLoop, ihl, Expr.firstForeign?, Expr.postorder]
    -- A foreign leaf on the left ends the loop before the right operand is looked at, which is the
    -- preference of `Option.or` for its first argument.
    rcases l.firstForeign? with _ | kind
    · rw [Option.none_or]
      dsimp only
      rw [ihr]
      rcases r.firstForeign? with _ | kind
      · -- Only the item that emits the operator is left in front of the others.
        dsimp only
        rw [compileLoop]
        simp only [List.reverse_append, List.reverse_cons, List.reverse_nil, List.nil_append,
          List.cons_append, List.append_assoc]
      · rfl
    · rfl

/-- **The compiler lists a tree in postorder**, or names its first foreign leaf. -/
theorem compile_eq (e : Expr) :
    compile e
      = match e.firstForeign? with
        | some kind => .error (.foreignNode kind)
        | none => .ok ⟨e.postorder⟩ := by
  rw [compile, compileLoop_visit]
  rcases e.firstForeign? with _ | kind
  · simp only [compileLoop, List.append_nil, List.reverse_reverse, Except.map]
  · rfl

theorem compile_of_pure {e : Expr} (hpure : e.Pure) : compile e = .ok ⟨e.postorder⟩ := by
  rw [compile_eq, (Expr.firstForeign?_eq_none_iff e).mpr hpure]

/-- A tree has a program exactly when it has no foreign leaf, and the program is its listing. -/
theorem compile_eq_ok_iff {e : Expr} {p : Program} :
    compile e = .ok p ↔ e.Pure ∧ p.instructions = e.postorder := by
  constructor
  · intro hp
    rw [compile_eq] at hp
    rcases hforeign : e.firstForeign? with _ | kind
    · rw [hforeign] at hp
      cases hp
      exact ⟨(Expr.firstForeign?_eq_none_iff e).mp hforeign, rfl⟩
    · rw [hforeign] at hp
      cases hp
  · rintro ⟨hpure, hp⟩
    rw [compile_of_pure hpure, ← hp]

end Compiler

namespace Machine

/-! ## Runs in parts -/

theorem exec_cons (index : Nat) (stack : Stack) (i : Instruction) (code : List Instruction) :
    exec index stack (i :: code)
      = (step index stack i).bind fun stack' => exec (index + 1) stack' code := by
  rw [exec]
  rcases step index stack i with e | stack' <;> rfl

/-- **Running `p ++ q` is running `p` and then `q`** from where `p` stopped. -/
theorem exec_append (index : Nat) (stack : Stack) (p q : List Instruction) :
    exec index stack (p ++ q)
      = (exec index stack p).bind fun stack' => exec (index + p.length) stack' q := by
  induction p generalizing index stack with
  | nil => rfl
  | cons i p ih =>
    rw [List.cons_append, exec_cons, exec_cons]
    rcases step index stack i with e | stack'
    · rfl
    · simp only [Except.bind, ih, List.length_cons]
      rw [Nat.add_assoc, Nat.add_comm 1]

theorem step_apply_cons_cons (index : Nat) (right left : Int) (stack : Stack) (op : Operator) :
    step index (right :: left :: stack) (.apply op)
      = ((op.apply left right).mapError .arithmetic).map (· :: stack) := by
  rw [step]
  rcases op.apply left right with cause | v <;> rfl

/-! ## Runs of compiled code -/

/-- **A listing puts the value of its tree on the stack**, from whatever stack it is run, and fails
as the recursion on the tree fails. -/
theorem exec_postorder {e : Expr} (hpure : e.Pure) (index : Nat) (stack : Stack) :
    exec index stack e.postorder = (Interpreter.evaluateFreely e).map (· :: stack) := by
  induction e generalizing index stack with
  | number n => rfl
  | foreign kind => exact hpure.elim
  | binary op l r ihl ihr =>
    rw [Expr.postorder, exec_append, exec_append, ihl hpure.1, Interpreter.evaluateFreely]
    rcases Interpreter.evaluateFreely l with x | a
    · rfl
    simp only [Except.map, Except.bind]
    rw [ihr hpure.2]
    rcases Interpreter.evaluateFreely r with x | b
    · rfl
    -- The operator finds `b` on top and `a` below it, and the stack it started from below both.
    simp only [Except.map, exec_cons, step_apply_cons_cons, Interpreter.combine]
    rcases op.apply a b with cause | v <;> rfl

/-- **The machine computes what the recursion computes.** -/
theorem run_postorder {e : Expr} (hpure : e.Pure) :
    run ⟨e.postorder⟩ = Interpreter.evaluateFreely e := by
  rw [run, exec_postorder hpure]
  rcases Interpreter.evaluateFreely e with x | v <;> rfl

end Machine

end Reckoner
