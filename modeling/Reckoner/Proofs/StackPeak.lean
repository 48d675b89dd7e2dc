import Reckoner.Proofs.Decompilation
import Reckoner.Proofs.ParserImage

/-!
# How high the stack gets

The machine puts no limit on its stack, and a program can make it as high as it pleases. The listing
of a tree does not: it keeps one value for every operand that waits for its right neighbour, and no
other. How many that are at most can be told from the tree (`Expr.stackPeak`), since the value of a
left operand waits while the right one is computed, and while the left one is computed nothing does.

The bound is about every moment of a run, so it is stated for the run over the first instructions of
a listing, however many they are. It is also stated for a run from any stack, because the listing of
an operand is run on top of what waits for it (`length_le_of_exec_take`).

A tree of height `h` leans to the right at most `h` times, which gives the bound by height. The
trees that come from the parser hardly lean to the right at all: a product never does, and a sum
does so once, for a product on its right. So three values are enough for a text of any length.
-/

namespace Reckoner

/-! ## The peak of a tree -/

namespace Expr

/-- How many values the listing of a tree adds to the stack, at the moment when it is highest. -/
def stackPeak : Expr → Nat
  | number _ => 1
  | foreign _ => 0
  | binary _ l r => max l.stackPeak (r.stackPeak + 1)

theorem stackPeak_le_height (e : Expr) : e.stackPeak ≤ e.height + 1 := by
  induction e with
  | number n => exact Nat.le_refl 1
  | foreign kind => exact Nat.zero_le 1
  | binary op l r ihl ihr =>
    rw [stackPeak, height]
    omega

/-- The right operand of a product is a number, so no more than its left neighbour ever waits. -/
theorem stackPeak_le_two {t : Expr} (hshape : t.ParserShaped) (hproduct : t.IsProduct) :
    t.stackPeak ≤ 2 := by
  refine product_induction (motive := fun t _ _ => t.stackPeak ≤ 2) ?_ ?_ t hshape hproduct
  · intro n _
    exact Nat.le_succ 1
  · intro op l n _ _ _ _ ihl
    have hnumber : (number n).stackPeak = 1 := rfl
    rw [stackPeak, hnumber]
    omega

/-- The right operand of a sum is a product, for which the sum before it waits. -/
theorem stackPeak_le_three {t : Expr} (hshape : t.ParserShaped) : t.stackPeak ≤ 3 := by
  refine sum_induction (motive := fun t _ => t.stackPeak ≤ 3) ?_ ?_ t hshape
  · intro t hshape hproduct
    have hle := stackPeak_le_two hshape hproduct
    omega
  · intro op l r _ _ _ hr hproduct ihl
    have hle := stackPeak_le_two hr hproduct
    rw [stackPeak]
    omega

end Expr

namespace Machine

/-! ## Every moment of a run -/

section Runs

variable {index n : Nat} {stack stack' : Stack}

/-- A moment in the run of `p ++ q` is one in the run of `p`, or one in the run of `q` from where
`p` stopped. -/
theorem exec_take_append_cases {p q : List Instruction}
    (h : exec index stack ((p ++ q).take n) = .ok stack') :
    exec index stack (p.take n) = .ok stack'
      ∨ ∃ between, exec index stack p = .ok between
          ∧ exec (index + p.length) between (q.take (n - p.length)) = .ok stack' := by
  rw [List.take_append] at h
  by_cases hn : n ≤ p.length
  · have hnone : n - p.length = 0 := by omega
    rw [hnone, List.take_zero, List.append_nil] at h
    exact Or.inl h
  · have hall : p.take n = p := List.take_of_length_le (by omega)
    rw [hall, exec_append] at h
    rcases hexec : exec index stack p with e | between
    · rw [hexec] at h
      cases h
    · rw [hexec] at h
      exact Or.inr ⟨between, rfl, h⟩

/-- A run over one instruction at most has not begun, or has taken a step. -/
theorem exec_take_singleton_cases {i : Instruction}
    (h : exec index stack ([i].take n) = .ok stack') :
    stack' = stack ∨ step index stack i = .ok stack' := by
  cases n with
  | zero =>
    cases h
    exact Or.inl rfl
  | succ n =>
    rw [List.take_succ_cons, List.take_nil, exec_cons] at h
    rcases hstep : step index stack i with e | next
    · rw [hstep] at h
      cases h
    · rw [hstep] at h
      cases h
      exact Or.inr rfl

/-- An operator takes two values and adds one. -/
theorem length_of_step_apply {op : Operator} (h : step index stack (.apply op) = .ok stack') :
    stack.length = stack'.length + 1 := by
  obtain ⟨right, left, rest, value, rfl, _, rfl⟩ := step_apply_eq_ok_iff.mp h
  rfl

/-- A listing that has been run through has added one value. -/
theorem length_of_exec_postorder {e : Expr} (hpure : e.Pure)
    (h : exec index stack e.postorder = .ok stack') : stack'.length = stack.length + 1 := by
  rw [exec_postorder hpure] at h
  rcases hvalue : Interpreter.evaluateFreely e with x | v
  · rw [hvalue] at h
    cases h
  · rw [hvalue] at h
    cases h
    rfl

/-- **At no moment does a listing add more to the stack than the peak of its tree**, from whatever
stack it is run. -/
theorem length_le_of_exec_take {e : Expr} (hpure : e.Pure)
    (h : exec index stack (e.postorder.take n) = .ok stack') :
    stack'.length ≤ stack.length + e.stackPeak := by
  induction e generalizing index n stack stack' with
  | number m =>
    rw [Expr.stackPeak]
    rcases exec_take_singleton_cases h with rfl | hstep
    · omega
    · cases hstep
      exact Nat.le_refl _
  | foreign kind => exact hpure.elim
  | binary op l r ihl ihr =>
    rw [Expr.stackPeak]
    rw [Expr.postorder, List.append_assoc] at h
    rcases exec_take_append_cases h with hleft | ⟨between, hl, h⟩
    · have hle := ihl hpure.1 hleft
      omega
    -- The left operand has been computed, and its value waits below the right one.
    have hbetween := length_of_exec_postorder hpure.1 hl
    rcases exec_take_append_cases h with hright | ⟨both, hr, h⟩
    · have hle := ihr hpure.2 hright
      omega
    -- Both have been computed. Before the operator the stack is as high as at the end of the right
    -- operand, and behind it the stack is lower.
    have hboth : both.length ≤ between.length + r.stackPeak := by
      rw [← List.take_length (l := r.postorder)] at hr
      exact ihr hpure.2 hr
    rcases exec_take_singleton_cases h with rfl | hstep
    · omega
    · have hlower := length_of_step_apply hstep
      omega

end Runs

/-- **The stack stays low.** A tree without foreign leaves has a program, and at no moment of its
run the stack holds more values than the tree has levels, and one. The tree of a text, whatever its
length and under whatever bound it was read, has a program at no moment of whose run the stack holds
more than three. -/
theorem stack_stays_low :
    (∀ e : Expr, e.Pure → ∃ p, Compiler.compile e = .ok p
        ∧ ∀ (n : Nat) (stack : Stack), exec 0 [] (p.instructions.take n) = .ok stack →
            stack.length ≤ e.measuredHeight + 1)
      ∧ ∀ (bound : Int) (text : String) (e : Expr), Parser.parse bound text = .ok e →
          ∃ p, Compiler.compile e = .ok p
            ∧ ∀ (n : Nat) (stack : Stack), exec 0 [] (p.instructions.take n) = .ok stack →
                stack.length ≤ 3 := by
  have hpeak : ∀ e : Expr, e.Pure → ∀ (n : Nat) (stack : Stack),
      exec 0 [] (e.postorder.take n) = .ok stack → stack.length ≤ e.stackPeak := by
    intro e hpure n stack h
    have hle := length_le_of_exec_take hpure h
    rwa [List.length_nil, Nat.zero_add] at hle
  constructor
  · intro e hpure
    refine ⟨⟨e.postorder⟩, Compiler.compile_of_pure hpure, ?_⟩
    intro n stack h
    rw [Expr.measuredHeight_eq_height]
    exact Nat.le_trans (hpeak e hpure n stack h) e.stackPeak_le_height
  · intro bound text e hparse
    have hshape := (Parser.parserShaped_of_parse hparse).1
    have hpure := Expr.pure_of_parserShaped hshape
    refine ⟨⟨e.postorder⟩, Compiler.compile_of_pure hpure, ?_⟩
    intro n stack h
    exact Nat.le_trans (hpeak e hpure n stack h) (Expr.stackPeak_le_three hshape)

/-- A difference that leans to the right, as no text is read to one. -/
def rightLeaning : Expr :=
  .binary .sub (.number 9) (.binary .sub (.number 7) (.binary .sub (.number 5) (.number 3)))

/-- The tree of a text with a product on the right of a difference. -/
def productRight : Expr :=
  .binary .sub (.binary .sub (.number 9) (.number 7)) (.binary .mul (.number 5) (.number 3))

/-- Both bounds are met: the first tree of three levels comes to four values, and the text to three,
behind its last number. -/
theorem stack_stays_low_at_peaks :
    (rightLeaning.Pure ∧ rightLeaning.measuredHeight = 3
        ∧ ∃ p, Compiler.compile rightLeaning = .ok p
          ∧ exec 0 [] (p.instructions.take 4) = .ok [3, 5, 7, 9]
          ∧ ∀ (n : Nat) (stack : Stack), exec 0 [] (p.instructions.take n) = .ok stack →
              stack.length ≤ rightLeaning.measuredHeight + 1)
      ∧ Parser.parse 2 "9 - 7 - 5*3" = .ok productRight
      ∧ ∃ p, Compiler.compile productRight = .ok p
          ∧ exec 0 [] (p.instructions.take 5) = .ok [3, 5, 2]
          ∧ ∀ (n : Nat) (stack : Stack), exec 0 [] (p.instructions.take n) = .ok stack →
              stack.length ≤ 3 := by
  have hpure : rightLeaning.Pure := by decide
  have hparse : Parser.parse 2 "9 - 7 - 5*3" = .ok productRight := by decide +kernel
  obtain ⟨p, hp, hlow⟩ := stack_stays_low.1 rightLeaning hpure
  obtain ⟨q, hq, hlow'⟩ := stack_stays_low.2 2 _ productRight hparse
  refine ⟨⟨hpure, ?_, p, hp, ?_, hlow⟩, hparse, q, hq, ?_, hlow'⟩
  · rw [Expr.measuredHeight_eq_height]
    rfl
  · rw [(Compiler.compile_eq_ok_iff.mp hp).2]
    rfl
  · rw [(Compiler.compile_eq_ok_iff.mp hq).2]
    rfl

end Machine

end Reckoner
