import Reckoner.Proofs.TextValue

/-!
# Every value is a word

Values are unbounded integers, so nothing about their type keeps them small. What does is the check
that `Operator.apply` makes after each operation, together with the range that pushed numbers and
leaves are known to have. This file follows the two through a run: one instruction leaves a stack of
words a stack of words, hence so does any number of them, and at every point of a run of any
program, malformed ones included, the stack holds words only. The interpreter is treated the same
way, call by call.

The operands that an error carries come from the stack or from calls that have returned, so they are
words too. For two words the exact quotient is no larger than the dividend, and there is a single
pair whose quotient is not a word: the least one and minus one.
-/

namespace Reckoner

/-! ## One operator -/

/-- The quotient of two words is a word, but for the least one divided by minus one. -/
theorem Word.inRange_tdiv {a b : Int} (ha : InRange a) (hb : b ≠ 0)
    (hcorner : ¬ (a = least ∧ b = -1)) : InRange (a.tdiv b) := by
  simp only [InRange, least, greatest] at ha hcorner ⊢
  have habs : (a.tdiv b).natAbs = a.natAbs / b.natAbs := Int.natAbs_tdiv a b
  by_cases hone : b.natAbs = 1
  · rcases Int.natAbs_eq b with hpos | hneg
    · have hb1 : b = 1 := by omega
      rw [hb1, Int.tdiv_one]
      exact ha
    · have hb1 : b = -1 := by omega
      have hquotient : a.tdiv b = -a := by rw [hb1, Int.tdiv_neg, Int.tdiv_one]
      rw [hquotient]
      omega
  · -- A divisor of two or more leaves at most half of the dividend.
    have hhalf : a.natAbs / b.natAbs ≤ a.natAbs / 2 :=
      Nat.div_le_div_left (by omega) (by decide)
    omega

/-- The operands of an error are words, and a division that overflows is the one that can. -/
def ArithmeticError.OfWords : ArithmeticError → Prop
  | divisionByZero left => Word.InRange left
  | overflow op left right =>
    Word.InRange left ∧ Word.InRange right ∧ (op = .div → left = Word.least ∧ right = -1)

theorem Operator.ofWords_of_apply {op : Operator} {a b : Int} {cause : ArithmeticError}
    (ha : Word.InRange a) (hb : Word.InRange b) (h : op.apply a b = .error cause) :
    cause.OfWords := by
  rw [apply] at h
  split at h
  · cases h
    exact ha
  · next hzero =>
    split at h
    · cases h
    · next hout =>
      cases h
      refine ⟨ha, hb, ?_⟩
      rintro rfl
      by_contra hcorner
      have hb0 : b ≠ 0 := fun hb0 => hzero ⟨rfl, hb0⟩
      exact hout (Word.inRange_tdiv ha hb0 hcorner)

/-! ## The machine -/

namespace Machine

/-- A stack of words. -/
def Stack.OfWords (stack : Stack) : Prop := ∀ v ∈ stack, Word.InRange v

/-- **An instruction leaves a stack of words one**, if the number it may push is a word. -/
theorem ofWords_of_step {index : Nat} {stack stack' : Stack} {i : Instruction}
    (h : step index stack i = .ok stack') (hpush : ∀ n, i = .push n → Word.InRange n)
    (hstack : stack.OfWords) : stack'.OfWords := by
  cases i with
  | push n =>
    cases h
    exact List.forall_mem_cons.mpr ⟨hpush n rfl, hstack⟩
  | apply op =>
    match stack with
    | right :: left :: rest =>
      rw [step_apply_cons_cons] at h
      rcases happ : op.apply left right with cause | v
      · rw [happ] at h
        cases h
      · rw [happ] at h
        cases h
        have hrest : Stack.OfWords rest := fun w hw =>
          hstack w (List.mem_cons_of_mem _ (List.mem_cons_of_mem _ hw))
        exact List.forall_mem_cons.mpr ⟨Operator.inRange_of_apply happ, hrest⟩

/-- An instruction that fails on a stack of words carries words. -/
theorem ofWords_of_step_error {index : Nat} {stack : Stack} {i : Instruction}
    {cause : ArithmeticError} (h : step index stack i = .error (.arithmetic cause))
    (hstack : stack.OfWords) : cause.OfWords := by
  cases i with
  | push n => cases h
  | apply op =>
    match stack with
    | right :: left :: rest =>
      rw [step_apply_cons_cons] at h
      rcases happ : op.apply left right with cause' | v
      · rw [happ] at h
        cases h
        have hright : Word.InRange right := hstack right List.mem_cons_self
        have hleft : Word.InRange left := hstack left (List.mem_cons_of_mem _ List.mem_cons_self)
        exact Operator.ofWords_of_apply hleft hright happ
      · rw [happ] at h
        cases h

/-- **So does any number of instructions.** -/
theorem ofWords_of_exec {index : Nat} {stack stack' : Stack} {code : List Instruction}
    (h : exec index stack code = .ok stack') (hpush : ∀ n, .push n ∈ code → Word.InRange n)
    (hstack : stack.OfWords) : stack'.OfWords := by
  induction code generalizing index stack with
  | nil =>
    cases h
    exact hstack
  | cons i code ih =>
    rw [exec_cons] at h
    rcases hstep : step index stack i with e | next
    · rw [hstep] at h
      cases h
    · rw [hstep] at h
      have hnext : next.OfWords :=
        ofWords_of_step hstep (fun n hn => hpush n (hn ▸ List.mem_cons_self)) hstack
      exact ih h (fun n hn => hpush n (List.mem_cons_of_mem _ hn)) hnext

theorem ofWords_of_exec_error {index : Nat} {stack : Stack} {code : List Instruction}
    {cause : ArithmeticError} (h : exec index stack code = .error (.arithmetic cause))
    (hpush : ∀ n, .push n ∈ code → Word.InRange n) (hstack : stack.OfWords) : cause.OfWords := by
  induction code generalizing index stack with
  | nil => cases h
  | cons i code ih =>
    rw [exec_cons] at h
    rcases hstep : step index stack i with e | next
    · rw [hstep] at h
      cases h
      exact ofWords_of_step_error hstep hstack
    · rw [hstep] at h
      have hnext : next.OfWords :=
        ofWords_of_step hstep (fun n hn => hpush n (hn ▸ List.mem_cons_self)) hstack
      exact ih h (fun n hn => hpush n (List.mem_cons_of_mem _ hn)) hnext

theorem ofWords_nil : Stack.OfWords [] := List.forall_mem_nil _

theorem inRange_of_run {p : Program} {v : Int}
    (hpush : ∀ n, .push n ∈ p.instructions → Word.InRange n) (h : run p = .ok v) :
    Word.InRange v := by
  rw [run] at h
  split at h
  · next value hexec =>
    cases h
    exact ofWords_of_exec hexec hpush ofWords_nil v List.mem_cons_self
  · cases h
  · cases h

theorem ofWords_of_run {p : Program} {cause : ArithmeticError}
    (hpush : ∀ n, .push n ∈ p.instructions → Word.InRange n)
    (h : run p = .error (.arithmetic cause)) : cause.OfWords := by
  rw [run] at h
  split at h
  · cases h
  · cases h
  · next hexec =>
    cases h
    exact ofWords_of_exec_error hexec hpush ofWords_nil

end Machine

/-! ## The interpreter -/

namespace Interpreter

/-- The calls that the evaluation of `e` makes: one of the whole tree, and from each operator node
that it enters one of the left operand and, once that has a value, one of the right operand. -/
inductive Calls (bound : Nat) (e : Expr) : Nat → Expr → Prop
  | root : Calls bound e 0 e
  | left {depth : Nat} {op : Operator} {l r : Expr} (hnode : Calls bound e depth (.binary op l r))
      (hentered : depth < bound) : Calls bound e (depth + 1) l
  | right {depth : Nat} {op : Operator} {l r : Expr} {a : Int}
      (hnode : Calls bound e depth (.binary op l r)) (hentered : depth < bound)
      (hleft : evaluateAt bound (depth + 1) l = .ok a) : Calls bound e (depth + 1) r

theorem inRange_of_calls {bound depth : Nat} {e s : Expr} (hrange : e.InRange)
    (h : Calls bound e depth s) : s.InRange := by
  induction h with
  | root => exact hrange
  | left _ _ ih => exact ih.1
  | right _ _ _ ih => exact ih.2

theorem ofWords_of_evaluateFreely {e : Expr} {cause : ArithmeticError} (hrange : e.InRange)
    (h : evaluateFreely e = .error (.arithmetic cause)) : cause.OfWords := by
  induction e with
  | number n => cases h
  | foreign kind => cases h
  | binary op l r ihl ihr =>
    rw [evaluateFreely, combine_eq_error_iff] at h
    rcases h with hl | ⟨_, _, hr⟩ | ⟨a, b, _, ha, hb, happ, hcause⟩
    · exact ihl hrange.1 hl
    · exact ihr hrange.2 hr
    · cases hcause
      exact Operator.ofWords_of_apply (inRange_of_evaluateFreely hrange.1 ha)
        (inRange_of_evaluateFreely hrange.2 hb) happ

/-- What a bound does not cut off is what the recursion without one gives. -/
theorem evaluateFreely_of_evaluateAt {bound depth : Nat} {e : Expr}
    {x : Except ExecutionError Int} (h : evaluateAt bound depth e = x)
    (hx : x ≠ .error (.tooDeep bound)) : evaluateFreely e = x := by
  rcases evaluateAt_tooDeep_or_eq bound depth e with hdeep | hfree
  · exact absurd (h.symm.trans hdeep) hx
  · exact hfree.symm.trans h

theorem inRange_of_evaluateAt {bound depth : Nat} {e : Expr} {v : Int} (hrange : e.InRange)
    (h : evaluateAt bound depth e = .ok v) : Word.InRange v :=
  inRange_of_evaluateFreely hrange (evaluateFreely_of_evaluateAt h (by simp))

theorem ofWords_of_evaluateAt {bound depth : Nat} {e : Expr} {cause : ArithmeticError}
    (hrange : e.InRange) (h : evaluateAt bound depth e = .error (.arithmetic cause)) :
    cause.OfWords :=
  ofWords_of_evaluateFreely hrange (evaluateFreely_of_evaluateAt h (by simp))

end Interpreter

/-! ## Both -/

/-- **Every value is a word.** Let the numbers that a program pushes be words, whatever else is
wrong with it. After any number of its instructions the stack holds words only, a result is a word,
and so are the operands of an arithmetic error; a division overflows with the least word and minus
one and with nothing else. The same is true of every call that the interpreter makes on a tree of
words under any bound, and so of the evaluation as a whole. -/
theorem values_stay_words :
    (∀ p : Program, (∀ n, .push n ∈ p.instructions → Word.InRange n) →
        (∀ (count : Nat) (stack : Machine.Stack),
            Machine.exec 0 [] (p.instructions.take count) = .ok stack →
            ∀ v ∈ stack, Word.InRange v)
          ∧ (∀ v, Machine.run p = .ok v → Word.InRange v)
          ∧ ∀ cause, Machine.run p = .error (.arithmetic cause) → cause.OfWords)
      ∧ ∀ (bound : DepthBound) (e : Expr), e.InRange →
          (∀ (depth : Nat) (s : Expr), Interpreter.Calls bound.levels e depth s →
              (∀ v, Interpreter.evaluateAt bound.levels depth s = .ok v → Word.InRange v)
                ∧ ∀ cause,
                    Interpreter.evaluateAt bound.levels depth s = .error (.arithmetic cause) →
                    cause.OfWords)
            ∧ (∀ v, Interpreter.evaluate bound e = .ok v → Word.InRange v)
            ∧ ∀ cause, Interpreter.evaluate bound e = .error (.arithmetic cause) →
                cause.OfWords := by
  constructor
  · intro p hpush
    refine ⟨?_, fun v hv => Machine.inRange_of_run hpush hv,
      fun cause h => Machine.ofWords_of_run hpush h⟩
    intro count stack hexec
    have hbefore : ∀ n, .push n ∈ p.instructions.take count → Word.InRange n :=
      fun n hn => hpush n (List.mem_of_mem_take hn)
    exact Machine.ofWords_of_exec hexec hbefore Machine.ofWords_nil
  · intro bound e hrange
    refine ⟨?_, fun v hv => Interpreter.inRange_of_evaluateAt hrange hv,
      fun cause h => Interpreter.ofWords_of_evaluateAt hrange h⟩
    intro depth s hcalls
    have hs : s.InRange := Interpreter.inRange_of_calls hrange hcalls
    exact ⟨fun v hv => Interpreter.inRange_of_evaluateAt hs hv,
      fun cause h => Interpreter.ofWords_of_evaluateAt hs h⟩

/-- The division that overflows, as a program with an operator too many behind it and as a tree. -/
theorem values_stay_words_at_overflow :
    (∀ n, .push n ∈ [Instruction.push Word.least, .push (-1), .apply .div, .apply .add] →
        Word.InRange n)
      ∧ Machine.run ⟨[.push Word.least, .push (-1), .apply .div, .apply .add]⟩
          = .error (.arithmetic (.overflow .div Word.least (-1)))
      ∧ (ArithmeticError.overflow .div Word.least (-1)).OfWords
      ∧ Expr.InRange (.binary .div (.number Word.least) (.number (-1)))
      ∧ ∀ cause,
          Interpreter.evaluate .standard (.binary .div (.number Word.least) (.number (-1)))
            = .error (.arithmetic cause) → cause.OfWords := by
  have hpush : ∀ n, .push n ∈ [Instruction.push Word.least, .push (-1), .apply .div, .apply .add] →
      Word.InRange n := by
    simp only [List.mem_cons, Instruction.push.injEq, reduceCtorEq, List.not_mem_nil, or_false]
    rintro n (rfl | rfl) <;> decide
  have hrun : Machine.run ⟨[.push Word.least, .push (-1), .apply .div, .apply .add]⟩
      = .error (.arithmetic (.overflow .div Word.least (-1))) := by decide
  have hrange : Expr.InRange (.binary .div (.number Word.least) (.number (-1))) :=
    show Word.InRange Word.least ∧ Word.InRange (-1) by decide
  exact ⟨hpush, hrun, (values_stay_words.1 _ hpush).2.2 _ hrun, hrange,
    (values_stay_words.2 .standard _ hrange).2.2⟩

end Reckoner
