import Reckoner.Executor
import Reckoner.Proofs.Compilation

/-!
# The two executors agree

An executor's *outcome* on a tree is the value or the error it ends with, notes aside. This file
compares the outcomes of the interpreter and of the virtual machine on a tree without foreign
leaves. Both go through the recursion without a bound: the machine computes it outright, and the
interpreter computes it or says `tooDeep`.

The comparison is of whole errors, operands included, and so it also says *which* of several faults
of a tree is met first. Where the depth bound is broken the two may differ, but in one way only: an
arithmetic fault that the interpreter does report is the one the machine reports, because everything
to its left had a value in both.
-/

namespace Reckoner

namespace Logged

@[simp] theorem value_bind {α β : Type} (first : Logged α) (next : α → Logged β) :
    (first >>= next).value = (next first.value).value := rfl

end Logged

/-! ## Notes aside -/

theorem Interpreter.value_evaluateNoted (bound : DepthBound) (e : Expr) :
    (evaluateNoted bound e).value = evaluate bound e := by
  rw [evaluateNoted]
  rcases evaluate bound e with x | v <;> rfl

theorem Compiler.value_compileNoted (e : Expr) : (compileNoted e).value = compile e := by
  rw [compileNoted]
  rcases compile e with x | p <;> rfl

theorem Machine.value_runNoted (p : Program) : (runNoted p).value = run p := by
  rw [runNoted]
  split
  · next index op size hrun => rw [hrun]; rfl
  · next size hrun => rw [hrun]; rfl
  · rfl

namespace Executor

/-- What an executor makes of a tree, notes aside. -/
def outcome (x : Executor) (e : Expr) : Except CalcError Int := (x.execute e).value

theorem outcome_interpreter (bound : DepthBound) (e : Expr) :
    (interpreter bound).outcome e = (Interpreter.evaluate bound e).mapError .execution := by
  rw [outcome, execute, Logged.value_bind, Interpreter.value_evaluateNoted]
  rcases Interpreter.evaluate bound e with x | v <;> rfl

/-- The machine's outcome on a tree that compiles is the run of its listing, which is the recursion
on the tree. -/
theorem outcome_vm_of_pure {e : Expr} (hpure : e.Pure) :
    (vm .standard).outcome e = (Interpreter.evaluateFreely e).mapError .execution := by
  rw [outcome, execute, StackVm.execute, Logged.value_bind, StackVm.standard,
    Compiler.value_compileNoted, Compiler.compile_of_pure hpure]
  dsimp only
  rw [Logged.value_bind, Machine.value_runNoted, Machine.run_postorder hpure]
  rcases Interpreter.evaluateFreely e with x | v <;> rfl

/-! ## Agreement -/

/-- On a tree that keeps the bound, the interpreter's outcome is the recursion on the tree too. -/
theorem outcome_interpreter_of_le {bound : DepthBound} {e : Expr}
    (hle : e.measuredHeight ≤ bound.levels) :
    (interpreter bound).outcome e = (Interpreter.evaluateFreely e).mapError .execution := by
  rw [Expr.measuredHeight_eq_height] at hle
  rw [outcome_interpreter, Interpreter.evaluate,
    Interpreter.evaluateAt_eq_evaluateFreely (by omega)]

/-- The executors that no bound keeps from a tree: the machine of this library, and an interpreter
whose bound the tree keeps. -/
def Covers : Executor → Expr → Prop
  | interpreter bound, e => e.measuredHeight ≤ bound.levels
  | vm machine, _ => machine = .standard

theorem outcome_of_covers {x : Executor} {e : Expr} (hpure : e.Pure) (hx : x.Covers e) :
    x.outcome e = (Interpreter.evaluateFreely e).mapError .execution := by
  cases x with
  | interpreter bound => exact outcome_interpreter_of_le hx
  | vm machine =>
    cases hx
    exact outcome_vm_of_pure hpure

/-- On a tree that breaks the bound, the interpreter says so or fails as the recursion fails. -/
theorem outcome_interpreter_of_lt {bound : DepthBound} {e : Expr}
    (hlt : bound.levels < e.measuredHeight) :
    (interpreter bound).outcome e = .error (.execution (.tooDeep bound.levels))
      ∨ ∃ x, (interpreter bound).outcome e = .error (.execution x)
          ∧ Interpreter.evaluateFreely e = .error x := by
  rw [Expr.measuredHeight_eq_height] at hlt
  rw [outcome_interpreter, Interpreter.evaluate]
  rcases Interpreter.evaluateAt_tooDeep_or_eq bound.levels 0 e with hdeep | heq
  · exact Or.inl (by rw [hdeep]; rfl)
  rcases hfree : Interpreter.evaluateFreely e with x | v
  · exact Or.inr ⟨x, by rw [heq, hfree]; rfl, rfl⟩
  · -- The recursion has a value, so an interpreter that follows it would have one too, and at this
    -- height it has none.
    have hnone := Interpreter.evaluateAt_ne_ok_of_lt (Nat.zero_le bound.levels)
      (by omega : bound.levels < 0 + e.height) v
    exact absurd (heq.trans hfree) hnone

/-- **The executors agree.** On every tree without foreign leaves that keeps the interpreter's bound
the two outcomes are equal, errors with their operands included. On one that breaks the bound the
interpreter has no value: it complains about the bound, or about the very arithmetic the machine
complains about. The machine complains about nothing else, so it finds no fault with its compiler
and no fault with its program. -/
theorem interpreter_agrees_with_vm {e : Expr} (hpure : e.Pure) (bound : DepthBound) :
    (e.measuredHeight ≤ bound.levels →
        (interpreter bound).outcome e = (vm .standard).outcome e)
      ∧ (bound.levels < e.measuredHeight →
          (interpreter bound).outcome e = .error (.execution (.tooDeep bound.levels))
            ∨ ∃ cause, (interpreter bound).outcome e = .error (.execution (.arithmetic cause))
                ∧ (vm .standard).outcome e = .error (.execution (.arithmetic cause)))
      ∧ ∀ x, (vm .standard).outcome e = .error x →
          ∃ cause, x = .execution (.arithmetic cause) := by
  -- With the machine's outcome replaced by the recursion, the first part is the interpreter's own
  -- lemma, and the other two are about errors of the recursion.
  rw [outcome_vm_of_pure hpure]
  refine ⟨outcome_interpreter_of_le, ?_, ?_⟩
  · intro hlt
    rcases outcome_interpreter_of_lt hlt with hdeep | ⟨x, hx, hfree⟩
    · exact Or.inl hdeep
    · obtain ⟨cause, rfl⟩ := Interpreter.evaluateFreely_error_arithmetic hpure hfree
      exact Or.inr ⟨cause, hx, by rw [hfree]; rfl⟩
  · intro x hx
    rcases hfree : Interpreter.evaluateFreely e with y | v
    · obtain ⟨cause, rfl⟩ := Interpreter.evaluateFreely_error_arithmetic hpure hfree
      rw [hfree] at hx
      cases hx
      exact ⟨cause, rfl⟩
    · rw [hfree] at hx
      cases hx

/-- `1 / 0 + (1 + 1 + 1)`, which has its fault on the left and its deepest operator on the right. -/
def faultBesideDepth : Expr :=
  .binary .add (.binary .div (.number 1) (.number 0))
    (.binary .add (.binary .add (.number 1) (.number 1)) (.number 1))

/-- Under a bound of three levels both executors report the division. Under a bound of two the tree
is too deep, and still it is the division that has to be reported if the depth is not. -/
theorem interpreter_agrees_with_vm_at_race :
    (interpreter ⟨3, by decide, by decide⟩).outcome faultBesideDepth
        = (vm .standard).outcome faultBesideDepth
      ∧ ((interpreter ⟨2, by decide, by decide⟩).outcome faultBesideDepth
            = .error (.execution (.tooDeep 2))
          ∨ ∃ cause,
              (interpreter ⟨2, by decide, by decide⟩).outcome faultBesideDepth
                  = .error (.execution (.arithmetic cause))
                ∧ (vm .standard).outcome faultBesideDepth
                  = .error (.execution (.arithmetic cause))) := by
  have hheight : faultBesideDepth.measuredHeight = 3 := Expr.measuredHeight_eq_height _
  refine ⟨(interpreter_agrees_with_vm (by decide) _).1 ?_,
    (interpreter_agrees_with_vm (by decide) _).2.1 ?_⟩
  · exact Nat.le_of_eq hheight
  · rw [hheight]; decide

end Executor

end Reckoner
