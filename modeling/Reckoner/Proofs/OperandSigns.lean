import Reckoner.Proofs.Applications
import Reckoner.Proofs.OnePassEvaluation

/-!
# Signs of operands

A text has no sign in front of a literal and no parentheses, and this limits what can go wrong when
it is evaluated. A product is made of literals by multiplication and division only, so its value is
not negative; and a product is what every operator has on its right and an operator of the higher
level has on its left too. Only the left operand of an addition or a subtraction can be negative.

So every operator that an executor applies has operands as in `Operator.Takes`, and what this says
of the errors is in `ArithmeticError.OneSided`. The one division of words that overflows has a
negative divisor and does not occur. The other operators overflow to one side each: the sum of a
word and a number that is not negative cannot be too small, and the difference cannot be too great.

The divisor of every division is a literal, so a division by zero can be seen in the tokens. Here
the pass over the tokens is the evaluation to look at: it takes each operator with the literal
behind it. If it divides by zero, a zero stands behind a division sign; if it comes to its end, it
has gone by every division sign and divided by the literal there.
-/

namespace Reckoner

open Grammar

/-! ## One operator -/

/-- The operands that an operator of a text has: words, of which at most the left one of an addition
or a subtraction is negative. -/
structure Operator.Takes (op : Operator) (left right : Int) : Prop where
  left_inRange : Word.InRange left
  right_nonneg : 0 ≤ right
  left_nonneg : op.level = .higher → 0 ≤ left

/-- No negative number is divided by zero, no quotient overflows, sums and products overflow
upwards, and differences downwards. -/
def ArithmeticError.OneSided : ArithmeticError → Prop
  | divisionByZero left => 0 ≤ left
  | overflow .add left right => Word.greatest < left + right
  | overflow .sub left right => left - right < Word.least
  | overflow .mul left right => Word.greatest < left * right
  | overflow .div _ _ => False

namespace Operator

variable {op : Operator} {a b : Int}

theorem apply_error_cases {cause : ArithmeticError} (h : op.apply a b = .error cause) :
    (op = .div ∧ b = 0 ∧ cause = .divisionByZero a)
      ∨ (¬ (op = .div ∧ b = 0) ∧ ¬ Word.InRange (op.exact a b) ∧ cause = .overflow op a b) := by
  rw [apply] at h
  by_cases hzero : op = .div ∧ b = 0
  · rw [if_pos hzero] at h
    cases h
    exact Or.inl ⟨hzero.1, hzero.2, rfl⟩
  · rw [if_neg hzero] at h
    by_cases hrange : Word.InRange (op.exact a b)
    · rw [if_pos hrange] at h
      cases h
    · rw [if_neg hrange] at h
      cases h
      exact Or.inr ⟨hzero, hrange, rfl⟩

theorem eq_div_of_apply {left : Int} (h : op.apply a b = .error (.divisionByZero left)) :
    op = .div ∧ b = 0 := by
  rcases apply_error_cases h with ⟨hop, hb, _⟩ | ⟨_, _, hcause⟩
  · exact ⟨hop, hb⟩
  · cases hcause

theorem eq_exact_of_apply {v : Int} (h : op.apply a b = .ok v) : v = op.exact a b := by
  rw [apply] at h
  split at h
  · cases h
  · split at h
    · cases h
      rfl
    · cases h

/-- The higher level does not lead below zero. -/
theorem nonneg_of_apply {v : Int} (hop : op.level = .higher) (ha : 0 ≤ a) (hb : 0 ≤ b)
    (h : op.apply a b = .ok v) : 0 ≤ v := by
  rw [eq_exact_of_apply h]
  cases op with
  | add => cases hop
  | sub => cases hop
  | mul => exact Int.mul_nonneg ha hb
  | div => exact Int.tdiv_nonneg ha hb

/-- **Operands of these signs fail in one way each.** -/
theorem Takes.oneSided {cause : ArithmeticError} (htakes : op.Takes a b)
    (h : op.apply a b = .error cause) : cause.OneSided := by
  obtain ⟨ha, hb, hleft⟩ := htakes
  rcases apply_error_cases h with ⟨rfl, rfl, rfl⟩ | ⟨hzero, hout, rfl⟩
  · exact hleft rfl
  · have hneg : Word.least < 0 := by decide
    cases op with
    | add =>
      -- The sum is no less than the left operand, which is a word.
      have hout : ¬ (Word.least ≤ a + b ∧ a + b ≤ Word.greatest) := hout
      have hlow : Word.least ≤ a := ha.1
      exact (by omega : Word.greatest < a + b)
    | sub =>
      -- The difference is no greater than the left operand.
      have hout : ¬ (Word.least ≤ a - b ∧ a - b ≤ Word.greatest) := hout
      have hhigh : a ≤ Word.greatest := ha.2
      exact (by omega : a - b < Word.least)
    | mul =>
      have hout : ¬ (Word.least ≤ a * b ∧ a * b ≤ Word.greatest) := hout
      have hproduct : 0 ≤ a * b := Int.mul_nonneg (hleft rfl) hb
      exact (by omega : Word.greatest < a * b)
    | div =>
      -- The pair of words whose quotient is none has a negative divisor.
      have hb0 : b ≠ 0 := fun hb0 => hzero ⟨rfl, hb0⟩
      exact hout (Word.inRange_tdiv ha hb0 (by omega))

end Operator

/-! ## The nodes of a tree -/

namespace Expr

theorem parserShaped_of_mem_subtrees {s t : Expr} (ht : t.ParserShaped) (hs : s ∈ t.subtrees) :
    s.ParserShaped := by
  induction t with
  | number n =>
    rw [List.mem_singleton.mp hs]
    exact ht
  | foreign kind => exact ht.elim
  | binary op l r ihl ihr =>
    simp only [subtrees, List.mem_append, List.mem_singleton] at hs
    rcases hs with (hs | hs) | rfl
    · exact ihl ht.1 hs
    · exact ihr ht.2.1 hs
    · exact ht

/-- **The value of a product is not negative.** -/
theorem nonneg_of_isProduct {t : Expr} {v : Int} (hshape : t.ParserShaped) (hproduct : t.IsProduct)
    (h : Interpreter.evaluateFreely t = .ok v) : 0 ≤ v := by
  induction t, hshape, hproduct using product_induction generalizing v with
  | number n hn =>
    cases h
    exact hn.1
  | binary op l n hshape hop _ _ ih =>
    obtain ⟨a, b, ha, hb, happ⟩ := Interpreter.combine_eq_ok_iff.mp h
    cases hb
    exact Operator.nonneg_of_apply hop (ih ha) hshape.2.1.1 happ

/-- The right operand is a product at either level. -/
theorem takes_of_node {op : Operator} {l r : Expr} {a b : Int}
    (hshape : (binary op l r).ParserShaped) (ha : Interpreter.evaluateFreely l = .ok a)
    (hb : Interpreter.evaluateFreely r = .ok b) : op.Takes a b := by
  obtain ⟨hl, hr, hhigher, hlower⟩ := hshape
  have hright : r.IsProduct := by
    cases hlevel : op.level with
    | higher =>
      have hnumber := (hhigher hlevel).2
      cases r with
      | number n => trivial
      | foreign kind => exact hnumber.elim
      | binary op' l' r' => exact hnumber.elim
    | lower => exact hlower hlevel
  exact {
    left_inRange := Interpreter.inRange_of_evaluateFreely (inRange_of_parserShaped hl) ha
    right_nonneg := nonneg_of_isProduct hr hright hb
    left_nonneg := fun hlevel => nonneg_of_isProduct hl (hhigher hlevel).1 ha }

end Expr

/-- **Whatever an executor applies has operands of these signs**, if the tree has the shape of those
that are read. -/
theorem Executor.Applies.takes {x : Executor} {t : Expr} {op : Operator} {a b : Int}
    (hshape : t.ParserShaped) (hx : x.Covers t) (h : x.Applies t op a b) : op.Takes a b := by
  obtain ⟨l, r, hnode, ha, hb⟩ := h.exists_node (Expr.pure_of_parserShaped hshape) hx
  exact Expr.takes_of_node (Expr.parserShaped_of_mem_subtrees hshape hnode) ha hb

/-! ## Zeros behind division signs -/

/-- Somewhere a literal of value zero stands behind a division sign. -/
def Grammar.DividesByZero (tokens : List Token) : Prop :=
  [.operator .div, .literal 0] <:+: tokens

instance (tokens : List Token) : Decidable (DividesByZero tokens) :=
  inferInstanceAs (Decidable ([.operator .div, .literal 0] <:+: tokens))

theorem Grammar.dividesByZero_literal_cons {n : Int} {tokens : List Token} :
    DividesByZero (.literal n :: tokens) ↔ DividesByZero tokens := by
  simp [DividesByZero, List.infix_cons_iff]

theorem Grammar.dividesByZero_operator_cons {op : Operator} {n : Int} {tokens : List Token} :
    DividesByZero (.operator op :: .literal n :: tokens)
      ↔ (op = .div ∧ n = 0) ∨ DividesByZero tokens := by
  simp [DividesByZero, List.infix_cons_iff, eq_comm]

namespace Tally

variable {s : Tally} {tokens : List Token}

/-- The operator in waiting stays one of the lower level. -/
theorem pending_of_step {s' : Tally} {op : Operator} {n : Int} (h : s.step op n = .ok s')
    (hpending : s.pending.level = .lower) : s'.pending.level = .lower := by
  obtain ⟨_, v, _, rfl⟩ | ⟨hlevel, total, _, rfl⟩ := step_ok_cases h
  · exact hpending
  · exact hlevel

/-- An operator of the lower level is no division, so the term is settled without one. -/
theorem settled_ne_divisionByZero (hpending : s.pending.level = .lower) (left : Int) :
    s.settled ≠ .error (.divisionByZero left) := by
  intro h
  rw [(Operator.eq_div_of_apply h).1] at hpending
  cases hpending

theorem eq_div_of_step {op : Operator} {n left : Int}
    (h : s.step op n = .error (.divisionByZero left)) (hpending : s.pending.level = .lower) :
    op = .div ∧ n = 0 := by
  rcases step_error_cases h with ⟨_, happ⟩ | ⟨_, hsettled⟩
  · exact Operator.eq_div_of_apply happ
  · exact absurd hsettled (settled_ne_divisionByZero hpending left)

/-- **A pass that divides by zero has come to a zero behind a division sign.** -/
theorem dividesByZero_of_run {left : Int} (h : s.run tokens = some (.error (.divisionByZero left)))
    (hpending : s.pending.level = .lower) : DividesByZero tokens := by
  fun_induction run s tokens with
  | case1 s => exact absurd (Option.some.inj h) (settled_ne_divisionByZero hpending left)
  | case2 s op n tokens s' hstep ih =>
    exact dividesByZero_operator_cons.mpr (Or.inr (ih h (pending_of_step hstep hpending)))
  | case3 s op n tokens cause hstep =>
    cases h
    exact dividesByZero_operator_cons.mpr (Or.inl (eq_div_of_step hstep hpending))
  | case4 => cases h

/-- **A pass that comes to its end has gone by no such zero.** -/
theorem not_dividesByZero_of_run {v : Int} (h : s.run tokens = some (.ok v)) :
    ¬ DividesByZero tokens := by
  fun_induction run s tokens with
  | case1 s => decide
  | case2 s op n tokens s' hstep ih =>
    rw [dividesByZero_operator_cons]
    rintro (⟨rfl, rfl⟩ | hrest)
    · -- The term divided by zero is an error, whatever the term is.
      cases hstep
    · exact ih h hrest
  | case3 => cases h
  | case4 => cases h

end Tally

namespace Grammar

variable {tokens : List Token}

theorem dividesByZero_of_onePass {left : Int}
    (h : onePass tokens = some (.error (.divisionByZero left))) : DividesByZero tokens := by
  match tokens with
  | .literal n :: tokens => exact dividesByZero_literal_cons.mpr (Tally.dividesByZero_of_run h rfl)

theorem not_dividesByZero_of_onePass {v : Int} (h : onePass tokens = some (.ok v)) :
    ¬ DividesByZero tokens := by
  match tokens with
  | .literal n :: tokens =>
    rw [dividesByZero_literal_cons]
    exact Tally.not_dividesByZero_of_run h

end Grammar

/-! ## Texts -/

namespace Parser

/-- **What can go wrong with a text that is read.** Let the executor be the machine or an
interpreter with at least the bound that the text is read under. Multiplications and divisions are
applied to numbers that are not negative. An arithmetic error is the error of an operator that was
applied, and it is one-sided: a number divided by zero is not negative, sums and products overflow
upwards, differences downwards, and quotients not at all. Nothing is divided by zero if no zero
stands behind a division sign of the text, and if one does, there is no value. -/
theorem operations_one_sided {bound : Int} {text : String} {t : Expr} (h : parse bound text = .ok t)
    {x : Executor} (hx : x.Serves bound) :
    (∀ op a b, x.Applies t op a b → op = .mul ∨ op = .div → 0 ≤ a ∧ 0 ≤ b)
      ∧ (∀ cause, x.outcome t = .error (.execution (.arithmetic cause)) →
          (∃ op a b, x.Applies t op a b ∧ op.apply a b = .error cause) ∧ cause.OneSided)
      ∧ ∃ tokens, Token.scan text.toList = some tokens
          ∧ (¬ DividesByZero tokens → ∀ left,
              x.outcome t ≠ .error (.execution (.arithmetic (.divisionByZero left))))
          ∧ (DividesByZero tokens → ∀ v, x.outcome t ≠ .ok v) := by
  have hshape := (parserShaped_of_parse h).1
  have hpure := pure_of_parse h
  have hcovers := covers_of_parse h hx
  obtain ⟨result, hpass, hvalue⟩ := exists_onePass_tokens hshape
  have houtcome : x.outcome t = (result.mapError .arithmetic).mapError .execution := by
    rw [Executor.outcome_of_covers hpure hcovers, hvalue]
  refine ⟨?_, ?_, t.tokens, scan_of_parse h, ?_, ?_⟩
  · intro op a b happlies hop
    have htakes := happlies.takes hshape hcovers
    have hlevel : op.level = .higher := by rcases hop with rfl | rfl <;> rfl
    exact ⟨htakes.left_nonneg hlevel, htakes.right_nonneg⟩
  · intro cause hcause
    obtain ⟨op, a, b, happlies, happ⟩ := Executor.exists_applies_of_outcome hpure hcovers hcause
    exact ⟨⟨op, a, b, happlies, happ⟩, (happlies.takes hshape hcovers).oneSided happ⟩
  · intro hnone left hzero
    rw [houtcome] at hzero
    rcases result with cause | v
    · cases hzero
      exact hnone (dividesByZero_of_onePass hpass)
    · cases hzero
  · intro hdivides v hv
    rw [houtcome] at hv
    rcases result with cause | w
    · cases hv
    · exact not_dividesByZero_of_onePass hpass hdivides

/-- The machine comes to the division of six by zero, and neither executor has a value. -/
theorem operations_one_sided_at_differences :
    (Executor.vm .standard).Applies differences.tree .div 6 0
      ∧ (∀ op a b, (Executor.vm .standard).Applies differences.tree op a b →
          op = .mul ∨ op = .div → 0 ≤ a ∧ 0 ≤ b)
      ∧ (∀ v, (Executor.vm .standard).outcome differences.tree ≠ .ok v)
      ∧ ∀ v, (Executor.interpreter ⟨4, by decide, by decide⟩).outcome differences.tree ≠ .ok v := by
  have hvm : (Executor.vm .standard).Serves 4 := rfl
  have hinterpreter : (Executor.interpreter ⟨4, by decide, by decide⟩).Serves 4 := Int.le_refl 4
  have hscan : Token.scan "8 - 3*2/0 - 1".toList = some differences.tree.tokens :=
    scan_of_parse parse_differences
  have hdivides : DividesByZero differences.tree.tokens := by decide
  obtain ⟨hnonneg, _, tokens, htokens, _, hvalue⟩ := operations_one_sided parse_differences hvm
  obtain ⟨_, _, tokens', htokens', _, hvalue'⟩ :=
    operations_one_sided parse_differences hinterpreter
  cases htokens.symm.trans hscan
  cases htokens'.symm.trans hscan
  refine ⟨⟨⟨differences.tree.postorder⟩, ?_, 5, [8], rfl, rfl⟩, hnonneg, hvalue hdivides,
    hvalue' hdivides⟩
  exact (Compiler.value_compileNoted _).trans
    (Compiler.compile_of_pure (pure_of_parse parse_differences))

end Parser

end Reckoner
