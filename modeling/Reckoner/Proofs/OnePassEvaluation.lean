import Reckoner.Proofs.ShuntingYard
import Reckoner.Proofs.TextValue

/-!
# Evaluation in one pass

A text can be evaluated while its tokens go by, without a tree, a program or a stack. Three things
are kept (`Tally`): the total of the terms that are complete, the operator that is going to join the
current term to the total, and the current term. An operator of the higher level changes the term,
and one of the lower level settles the term with the total and begins another. The pass stops at the
first operation that has no result.

Executors compute the same, errors and their operands included. What has to be seen is that the
pass carries out the operations of the tree in the order of the tree. The tokens of a product change
the term only, and leave it with the value of the product, or stop the pass with the product's error
(`begin_product`). Behind the tokens of any tree that is read, the operation that would settle the
tally is the operation at the root of the tree (`begin_tokens`); it is not carried out before the
next operator of the lower level or the end asks for it, and neither is it by an executor, which
takes it up when the operands are done.

At the start the total is zero and the operator in waiting is an addition. Settling the first term
with it changes nothing, because the term is a word.
-/

namespace Reckoner

open Grammar

/-! ## The pass -/

/-- The total of the terms that are complete, the operator that will join the current term to it,
and the current term. -/
structure Tally where
  total : Int
  pending : Operator
  term : Int
  deriving DecidableEq, Repr

namespace Tally

/-- The total with the current term joined to it. -/
def settled (s : Tally) : Except ArithmeticError Int := s.pending.apply s.total s.term

/-- An operator and the literal behind it. -/
def step (s : Tally) (op : Operator) (n : Int) : Except ArithmeticError Tally :=
  match op.level with
  | .higher => (op.apply s.term n).map fun term => { s with term := term }
  | .lower => s.settled.map fun total => ⟨total, op, n⟩

/-- What is left of the tokens behind the first literal of a term. There is no result if literals
and operators do not take turns. -/
def run (s : Tally) : List Token → Option (Except ArithmeticError Int)
  | [] => some s.settled
  | .operator op :: .literal n :: tokens =>
    match s.step op n with
    | .ok s' => s'.run tokens
    | .error cause => some (.error cause)
  | _ => none

/-- The tokens from the first literal of a term on. -/
def begin (total : Int) (pending : Operator) : List Token → Option (Except ArithmeticError Int)
  | .literal n :: tokens => run ⟨total, pending, n⟩ tokens
  | _ => none

end Tally

/-- The value of a sequence of tokens in one pass. -/
def Grammar.onePass (tokens : List Token) : Option (Except ArithmeticError Int) :=
  Tally.begin 0 .add tokens

-- The sum overflows before the division by zero is reached.
example :
    onePass [.literal Word.greatest, .operator .add, .literal 1, .operator .sub, .literal 3,
        .operator .div, .literal 0]
      = some (.error (.overflow .add Word.greatest 1)) := by
  decide

/-! ## One operator -/

namespace Tally

theorem step_ok_cases {s s' : Tally} {op : Operator} {n : Int} (h : s.step op n = .ok s') :
    (op.level = .higher ∧ ∃ v, op.apply s.term n = .ok v ∧ s' = { s with term := v })
      ∨ (op.level = .lower ∧ ∃ total, s.settled = .ok total ∧ s' = ⟨total, op, n⟩) := by
  cases hlevel : op.level with
  | higher =>
    rw [step, hlevel] at h
    rcases happ : op.apply s.term n with cause | v
    · rw [happ] at h
      cases h
    · rw [happ] at h
      cases h
      exact Or.inl ⟨rfl, v, rfl, rfl⟩
  | lower =>
    rw [step, hlevel] at h
    rcases hsettled : s.settled with cause | total
    · rw [hsettled] at h
      cases h
    · rw [hsettled] at h
      cases h
      exact Or.inr ⟨rfl, total, rfl, rfl⟩

theorem step_error_cases {s : Tally} {op : Operator} {n : Int} {cause : ArithmeticError}
    (h : s.step op n = .error cause) :
    (op.level = .higher ∧ op.apply s.term n = .error cause)
      ∨ (op.level = .lower ∧ s.settled = .error cause) := by
  cases hlevel : op.level with
  | higher =>
    rw [step, hlevel] at h
    rcases happ : op.apply s.term n with cause' | v
    · rw [happ] at h
      cases h
      exact Or.inl ⟨rfl, rfl⟩
    · rw [happ] at h
      cases h
  | lower =>
    rw [step, hlevel] at h
    rcases hsettled : s.settled with cause' | total
    · rw [hsettled] at h
      cases h
      exact Or.inr ⟨rfl, rfl⟩
    · rw [hsettled] at h
      cases h

theorem run_higher {op : Operator} (hop : op.level = .higher) (s : Tally) (n : Int)
    (tokens : List Token) :
    s.run (.operator op :: .literal n :: tokens)
      = match op.apply s.term n with
        | .ok v => run { s with term := v } tokens
        | .error cause => some (.error cause) := by
  rw [run, step, hop]
  rcases op.apply s.term n with cause | v <;> rfl

theorem run_lower {op : Operator} (hop : op.level = .lower) (s : Tally) (n : Int)
    (tokens : List Token) :
    s.run (.operator op :: .literal n :: tokens)
      = match s.settled with
        | .ok total => begin total op (.literal n :: tokens)
        | .error cause => some (.error cause) := by
  rw [run, step, hop]
  rcases s.settled with cause | total <;> rfl

/-! ## The tokens of a tree -/

/-- **The tokens of a product leave its value as the term**, or they stop the pass with its
error. -/
theorem begin_product {t : Expr} (hshape : t.ParserShaped) (hproduct : t.IsProduct) (total : Int)
    (pending : Operator) :
    (∃ v, Interpreter.evaluateFreely t = .ok v
        ∧ ∀ more, begin total pending (t.tokens ++ more) = run ⟨total, pending, v⟩ more)
      ∨ ∃ cause, Interpreter.evaluateFreely t = .error (.arithmetic cause)
          ∧ ∀ more, begin total pending (t.tokens ++ more) = some (.error cause) := by
  induction t, hshape, hproduct using Expr.product_induction with
  | number n => exact Or.inl ⟨n, rfl, fun _ => rfl⟩
  | binary op l n _ hop _ _ ih =>
    have happend : ∀ more, (Expr.binary op l (.number n)).tokens ++ more
        = l.tokens ++ (.operator op :: .literal n :: more) := by
      intro more
      simp only [Expr.tokens, List.append_assoc, List.cons_append, List.nil_append]
    rcases ih with ⟨a, ha, hpass⟩ | ⟨cause, hcause, hpass⟩
    · rcases happ : op.apply a n with cause | v
      · refine Or.inr ⟨cause, ?_, fun more => by rw [happend, hpass, run_higher hop, happ]⟩
        rw [Interpreter.evaluateFreely, ha, Interpreter.evaluateFreely, Interpreter.combine, happ]
        rfl
      · refine Or.inl ⟨v, ?_, fun more => by rw [happend, hpass, run_higher hop, happ]⟩
        rw [Interpreter.evaluateFreely, ha, Interpreter.evaluateFreely, Interpreter.combine, happ]
        rfl
    · refine Or.inr ⟨cause, ?_, fun more => by rw [happend, hpass]⟩
      rw [Interpreter.evaluateFreely, hcause, Interpreter.combine]

end Tally

theorem Expr.exists_tokens_eq_cons {t : Expr} (hpure : t.Pure) :
    ∃ n tokens, t.tokens = .literal n :: tokens := by
  induction t with
  | number n => exact ⟨n, [], rfl⟩
  | foreign kind => exact hpure.elim
  | binary op l r ihl _ =>
    obtain ⟨n, tokens, hl⟩ := ihl hpure.1
    exact ⟨n, tokens ++ .operator op :: r.tokens, by rw [Expr.tokens, hl, List.cons_append]⟩

namespace Tally

/-- Settling the first term changes nothing. -/
theorem settled_first {v : Int} (hv : Word.InRange v) : settled ⟨0, .add, v⟩ = .ok v := by
  have hexact : Operator.add.exact 0 v = v := Int.zero_add v
  rw [settled, Operator.apply, if_neg (by simp), hexact, if_pos hv]

/-- **The tokens of a tree leave its last operation to be settled**, or they stop the pass with the
tree's error. -/
theorem begin_tokens {t : Expr} (hshape : t.ParserShaped) :
    (∃ s : Tally, Interpreter.evaluateFreely t = s.settled.mapError .arithmetic
        ∧ ∀ more, begin 0 .add (t.tokens ++ more) = s.run more)
      ∨ ∃ cause, Interpreter.evaluateFreely t = .error (.arithmetic cause)
          ∧ ∀ more, begin 0 .add (t.tokens ++ more) = some (.error cause) := by
  induction t, hshape using Expr.sum_induction with
  | product t hshape hproduct =>
    rcases begin_product hshape hproduct 0 .add with ⟨v, hv, hpass⟩ | hstop
    · have hrange := Interpreter.inRange_of_evaluateFreely (Expr.inRange_of_parserShaped hshape) hv
      exact Or.inl ⟨⟨0, .add, v⟩, by rw [hv, settled_first hrange]; rfl, hpass⟩
    · exact Or.inr hstop
  | binary op l r _ hlevel _ hr hproduct ih =>
    obtain ⟨n, tokens, hright⟩ := Expr.exists_tokens_eq_cons (Expr.pure_of_parserShaped hr)
    have happend : ∀ more, (Expr.binary op l r).tokens ++ more
        = l.tokens ++ (.operator op :: (r.tokens ++ more)) := by
      intro more
      simp only [Expr.tokens, List.append_assoc, List.cons_append]
    rcases ih with ⟨s, hs, hpass⟩ | ⟨cause, hcause, hpass⟩
    · -- The operator settles the left operand, and the right one begins as a term of its own.
      have hsettle : ∀ more, begin 0 .add ((Expr.binary op l r).tokens ++ more)
          = match s.settled with
            | .ok total => begin total op (r.tokens ++ more)
            | .error cause => some (.error cause) := by
        intro more
        rw [happend, hpass, hright, List.cons_append, run_lower hlevel]
      rcases hsettled : s.settled with cause | total
      · rw [hsettled] at hs
        refine Or.inr ⟨cause, ?_, fun more => by rw [hsettle, hsettled]⟩
        rw [Interpreter.evaluateFreely, hs]
        rfl
      · rw [hsettled] at hs
        rcases begin_product hr hproduct total op with ⟨v, hv, hterm⟩ | ⟨cause, hv, hterm⟩
        · refine Or.inl ⟨⟨total, op, v⟩, ?_, fun more => ?_⟩
          · rw [Interpreter.evaluateFreely, hs, hv]
            rfl
          · rw [hsettle, hsettled]
            exact hterm more
        · refine Or.inr ⟨cause, ?_, fun more => ?_⟩
          · rw [Interpreter.evaluateFreely, hs, hv]
            rfl
          · rw [hsettle, hsettled]
            exact hterm more
    · refine Or.inr ⟨cause, ?_, fun more => by rw [happend, hpass]⟩
      rw [Interpreter.evaluateFreely, hcause, Interpreter.combine]

end Tally

/-- The pass over the tokens of a tree has a result, and it is that of the recursion on the tree. -/
theorem Grammar.exists_onePass_tokens {t : Expr} (hshape : t.ParserShaped) :
    ∃ result, onePass t.tokens = some result
      ∧ Interpreter.evaluateFreely t = result.mapError .arithmetic := by
  rw [onePass, ← List.append_nil t.tokens]
  rcases Tally.begin_tokens hshape with ⟨s, hs, hpass⟩ | ⟨cause, hcause, hpass⟩
  · exact ⟨s.settled, hpass [], hs⟩
  · exact ⟨.error cause, hpass [], hcause⟩

/-! ## Texts -/

/-- The executors that no tree read under the bound is too deep for: the machine of this library,
and an interpreter whose own bound is at least as great. -/
def Executor.Serves (bound : Int) : Executor → Prop
  | interpreter limit => bound ≤ limit.levels
  | vm machine => machine = .standard

namespace Parser

theorem covers_of_parse {bound : Int} {text : String} {t : Expr} {x : Executor}
    (h : parse bound text = .ok t) (hx : x.Serves bound) : x.Covers t := by
  cases x with
  | vm machine => exact hx
  | interpreter limit => exact measuredHeight_le_of_parse h hx

/-- **A text is evaluated in one pass.** Let a text be read under some bound, and let the executor
be the machine or an interpreter with at least that bound. The pass over the tokens of the text has
a result, and the executor's outcome on the tree is this result: the same value, or the same
arithmetic error with the same operator and operands. -/
theorem outcome_eq_onePass {bound : Int} {text : String} {t : Expr} (h : parse bound text = .ok t)
    {x : Executor} (hx : x.Serves bound) :
    ∃ tokens result, Token.scan text.toList = some tokens ∧ onePass tokens = some result
      ∧ x.outcome t = result.mapError fun cause => .execution (.arithmetic cause) := by
  obtain ⟨result, hpass, hvalue⟩ := exists_onePass_tokens (parserShaped_of_parse h).1
  refine ⟨t.tokens, result, scan_of_parse h, hpass, ?_⟩
  rw [Executor.outcome_of_covers (pure_of_parse h) (covers_of_parse h hx), hvalue]
  rcases result with cause | v <;> rfl

/-- The division by zero stands in the middle of two differences. -/
theorem outcome_eq_onePass_at_differences :
    (∃ tokens result, Token.scan "8 - 3*2/0 - 1".toList = some tokens
        ∧ onePass tokens = some result
        ∧ (Executor.vm .standard).outcome differences.tree
            = result.mapError fun cause => .execution (.arithmetic cause))
      ∧ ∃ tokens result, Token.scan "8 - 3*2/0 - 1".toList = some tokens
        ∧ onePass tokens = some result
        ∧ (Executor.interpreter ⟨4, by decide, by decide⟩).outcome differences.tree
            = result.mapError fun cause => .execution (.arithmetic cause) := by
  have hvm : (Executor.vm .standard).Serves 4 := rfl
  have hinterpreter : (Executor.interpreter ⟨4, by decide, by decide⟩).Serves 4 := Int.le_refl 4
  exact ⟨outcome_eq_onePass parse_differences hvm,
    outcome_eq_onePass parse_differences hinterpreter⟩

end Parser

end Reckoner
