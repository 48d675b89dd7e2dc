import Reckoner.Proofs.ExecutorAgreement

/-!
# Checked evaluation is exact

The *exact value* of a tree is its value over the unbounded integers, where a quotient is cut off
toward zero and a division by zero has none. A tree is *representable* if it has an exact value and
this fits into a word. Neither notion knows of an order of evaluation or of errors.

An executor computes with words and stops at the first thing that goes wrong. Which tree gets a
value and which error another one gets can nevertheless be said in exact values alone. There is a
value if and only if every subtree is representable, so a result that would fit does not make up for
an operand that does not. Otherwise the error is about the first subtree, in the order operands
before their operator and left before right, that is not representable (`firstFault?`). Everything
before that subtree has been computed and is exact, its two operands included, and these are what
the error carries.
-/

namespace Reckoner

/-! ## Exact values -/

/-- The result of an operator over the unbounded integers, if there is one. -/
def Operator.result? : Operator → Int → Int → Option Int
  | .add, a, b => some (a + b)
  | .sub, a, b => some (a - b)
  | .mul, a, b => some (a * b)
  | .div, a, b => if b = 0 then none else some (a.tdiv b)

namespace Expr

/-- The value of a tree over the unbounded integers, if there is one. -/
def exactValue? : Expr → Option Int
  | number n => some n
  | foreign _ => none
  | binary op l r => l.exactValue?.bind fun a => r.exactValue?.bind fun b => op.result? a b

theorem exactValue?_binary {l r : Expr} {a b : Int} (op : Operator) (ha : l.exactValue? = some a)
    (hb : r.exactValue? = some b) : (binary op l r).exactValue? = op.result? a b := by
  rw [exactValue?, ha, hb, Option.bind_some, Option.bind_some]

/-- A tree with an exact value that fits into a word. -/
def Representable (e : Expr) : Prop := ∃ v, e.exactValue? = some v ∧ Word.InRange v

instance (e : Expr) : Decidable e.Representable :=
  match h : e.exactValue? with
  | none => isFalse fun ⟨_, hv, _⟩ => nomatch h.symm.trans hv
  | some v => decidable_of_iff (Word.InRange v)
      ⟨fun hv => ⟨v, h, hv⟩, fun ⟨_, hw, hv⟩ => Option.some.inj (h.symm.trans hw) ▸ hv⟩

instance decidableInRange : (e : Expr) → Decidable e.InRange
  | number n => inferInstanceAs (Decidable (Word.InRange n))
  | foreign _ => isTrue trivial
  | binary _ l r =>
    have := decidableInRange l
    have := decidableInRange r
    inferInstanceAs (Decidable (l.InRange ∧ r.InRange))

/-- Every subtree, operands before their operator and left before right. -/
def subtrees : Expr → List Expr
  | number n => [number n]
  | foreign kind => [foreign kind]
  | binary op l r => l.subtrees ++ r.subtrees ++ [binary op l r]

/-- The first subtree that is not representable. -/
def firstFault? (e : Expr) : Option Expr := e.subtrees.find? fun s => !decide s.Representable

theorem firstFault?_eq_none_iff (e : Expr) :
    e.firstFault? = none ↔ ∀ s ∈ e.subtrees, s.Representable := by
  rw [firstFault?, List.find?_eq_none]
  simp only [Bool.not_eq_true', decide_eq_false_iff_not, Decidable.not_not]

/-- A node comes after both of its operands, and the right operand after the left one. -/
theorem firstFault?_binary (op : Operator) (l r : Expr) :
    (binary op l r).firstFault?
      = (l.firstFault?.or r.firstFault?).or
          (if (binary op l r).Representable then none else some (binary op l r)) := by
  rw [firstFault?, subtrees, List.find?_append, List.find?_append, ← firstFault?, ← firstFault?]
  by_cases hrep : (binary op l r).Representable
  · rw [if_pos hrep]
    simp [hrep]
  · rw [if_neg hrep]
    simp [hrep]

end Expr

/-! ## One operator -/

/-- The checked operation is the exact one, with the two ways to fail told apart by whether there is
an exact result. -/
theorem Operator.apply_eq (op : Operator) (a b : Int) :
    op.apply a b
      = match op.result? a b with
        | some v => if Word.InRange v then .ok v else .error (.overflow op a b)
        | none => .error (.divisionByZero a) := by
  unfold apply
  cases op with
  | add => rfl
  | sub => rfl
  | mul => rfl
  | div =>
    by_cases hb : b = 0
    · rw [if_pos ⟨rfl, hb⟩, result?, if_pos hb]
    · rw [if_neg (fun h => hb h.2), result?, if_neg hb, exact]

theorem Operator.result?_eq_none_iff {op : Operator} {a b : Int} :
    op.result? a b = none ↔ op = .div ∧ b = 0 := by
  cases op <;> simp [result?]

/-- The error of an operation whose exact result is missing or does not fit. -/
def Operator.fault (op : Operator) (left right : Int) : ArithmeticError :=
  if op = .div ∧ right = 0 then .divisionByZero left else .overflow op left right

theorem Operator.apply_of_result? {op : Operator} {a b v : Int} (hv : op.result? a b = some v)
    (hrange : Word.InRange v) : op.apply a b = .ok v := by
  rw [apply_eq, hv]
  exact if_pos hrange

theorem Operator.apply_eq_fault {op : Operator} {a b : Int}
    (hnone : ¬ ∃ v, op.result? a b = some v ∧ Word.InRange v) :
    op.apply a b = .error (op.fault a b) := by
  rw [apply_eq, fault]
  rcases hv : op.result? a b with _ | v
  · rw [if_pos (result?_eq_none_iff.mp hv)]
  · have hdefined : ¬ (op = .div ∧ b = 0) := by
      rw [← result?_eq_none_iff (a := a), hv]
      exact Option.some_ne_none v
    rw [if_neg hdefined]
    exact if_neg fun hrange => hnone ⟨v, hv, hrange⟩

/-! ## Whole trees -/

namespace Interpreter

/-- If every subtree is representable, evaluation gives the exact value. -/
theorem evaluateFreely_of_firstFault?_none {e : Expr} (hpure : e.Pure)
    (hnone : e.firstFault? = none) :
    ∃ v, e.exactValue? = some v ∧ Word.InRange v ∧ evaluateFreely e = .ok v := by
  induction e with
  | number n =>
    obtain ⟨v, hv, hrange⟩ :=
      (Expr.firstFault?_eq_none_iff _).mp hnone (.number n) List.mem_cons_self
    cases hv
    exact ⟨n, rfl, hrange, rfl⟩
  | foreign kind => exact hpure.elim
  | binary op l r ihl ihr =>
    rw [Expr.firstFault?_binary, Option.or_eq_none_iff, Option.or_eq_none_iff] at hnone
    obtain ⟨⟨hl, hr⟩, hself⟩ := hnone
    obtain ⟨a, ha, _, hla⟩ := ihl hpure.1 hl
    obtain ⟨b, hb, _, hrb⟩ := ihr hpure.2 hr
    have hexact := Expr.exactValue?_binary op ha hb
    -- The operands have their exact values, so the operator is applied to what it would be applied
    -- to without a word size.
    by_cases hrep : (Expr.binary op l r).Representable
    · obtain ⟨v, hv, hrange⟩ := hrep
      refine ⟨v, hv, hrange, ?_⟩
      rw [evaluateFreely, combine_eq_ok_iff]
      rw [hexact] at hv
      exact ⟨a, b, hla, hrb, Operator.apply_of_result? hv hrange⟩
    · rw [if_neg hrep] at hself
      cases hself

/-- If some subtree is not representable, the first one is an operator node whose operands have
exact values, and evaluation fails with that node's fault. -/
theorem evaluateFreely_of_firstFault?_some {e n : Expr} (hpure : e.Pure) (hrange : e.InRange)
    (hn : e.firstFault? = some n) :
    ∃ op l r a b, n = .binary op l r ∧ l.exactValue? = some a ∧ r.exactValue? = some b
      ∧ evaluateFreely e = .error (.arithmetic (op.fault a b)) := by
  induction e with
  | number m =>
    have hnone : (Expr.number m).firstFault? = none := by
      rw [Expr.firstFault?_eq_none_iff]
      rintro s (_ | ⟨_, ⟨⟩⟩)
      exact ⟨m, rfl, hrange⟩
    rw [hnone] at hn
    cases hn
  | foreign kind => exact hpure.elim
  | binary op l r ihl ihr =>
    rw [Expr.firstFault?_binary] at hn
    rcases hl : l.firstFault? with _ | nl
    · obtain ⟨a, ha, _, hla⟩ := evaluateFreely_of_firstFault?_none hpure.1 hl
      rcases hr : r.firstFault? with _ | nr
      · obtain ⟨b, hb, _, hrb⟩ := evaluateFreely_of_firstFault?_none hpure.2 hr
        -- Both operands are exact, so the fault is the node's own.
        rw [hl, hr, Option.none_or, Option.none_or] at hn
        by_cases hrep : (Expr.binary op l r).Representable
        · rw [if_pos hrep] at hn
          cases hn
        · rw [if_neg hrep] at hn
          cases hn
          rw [Expr.Representable, Expr.exactValue?_binary op ha hb] at hrep
          refine ⟨op, l, r, a, b, rfl, ha, hb, ?_⟩
          rw [evaluateFreely, combine_eq_error_iff]
          exact Or.inr (Or.inr ⟨a, b, _, hla, hrb, Operator.apply_eq_fault hrep, rfl⟩)
      · -- The first fault lies in the right operand, and it is reached because the left one has a
        -- value.
        rw [hl, hr, Option.none_or, Option.some_or] at hn
        cases hn
        obtain ⟨op', l', r', a', b', hnode, hl', hr', herr⟩ := ihr hpure.2 hrange.2 hr
        refine ⟨op', l', r', a', b', hnode, hl', hr', ?_⟩
        rw [evaluateFreely, combine_eq_error_iff]
        exact Or.inr (Or.inl ⟨a, hla, herr⟩)
    · rw [hl, Option.some_or, Option.some_or] at hn
      cases hn
      obtain ⟨op', l', r', a', b', hnode, hl', hr', herr⟩ := ihl hpure.1 hrange.1 hl
      refine ⟨op', l', r', a', b', hnode, hl', hr', ?_⟩
      rw [evaluateFreely, combine_eq_error_iff]
      exact Or.inl herr

end Interpreter

namespace Executor

/-- **Checked evaluation is exact.** An executor that covers a tree of words returns a value if and
only if every subtree is representable, and then it returns the exact value. Otherwise it reports
the first subtree that is not representable. That is an operator node whose operands have exact
values, and the error is a division by zero with the left one if the node divides by zero, and an
overflow of its operator with both of them if it does not. -/
theorem outcome_exact {e : Expr} (hpure : e.Pure) (hrange : e.InRange) {x : Executor}
    (hx : x.Covers e) :
    (∀ v, x.outcome e = .ok v ↔
        (∀ s ∈ e.subtrees, s.Representable) ∧ e.exactValue? = some v)
      ∧ ((¬ ∀ s ∈ e.subtrees, s.Representable) →
          ∃ op l r a b, e.firstFault? = some (.binary op l r)
            ∧ l.exactValue? = some a ∧ r.exactValue? = some b
            ∧ x.outcome e = .error (.execution (.arithmetic
                (if op = .div ∧ b = 0 then .divisionByZero a else .overflow op a b)))) := by
  -- Both executors are the recursion here, and both parts ask whether there is a first fault.
  rw [outcome_of_covers hpure hx, ← Expr.firstFault?_eq_none_iff]
  rcases hfault : e.firstFault? with _ | n
  · obtain ⟨w, hw, _, hok⟩ := Interpreter.evaluateFreely_of_firstFault?_none hpure hfault
    rw [hok, hw]
    refine ⟨fun v => ?_, fun h => absurd rfl h⟩
    rw [mapError_eq_ok_iff, Except.ok.injEq, Option.some.injEq]
    exact ⟨fun hv => ⟨rfl, hv⟩, And.right⟩
  · obtain ⟨op, l, r, a, b, rfl, ha, hb, herr⟩ :=
      Interpreter.evaluateFreely_of_firstFault?_some hpure hrange hfault
    rw [herr]
    refine ⟨fun v => ?_, fun _ => ⟨op, l, r, a, b, rfl, ha, hb, rfl⟩⟩
    constructor
    · intro hv
      cases hv
    · intro hv
      cases hv.1

/-- The least word divided by minus one, times zero: the product would be zero, and the quotient
does not fit. -/
def quotientTimesZero : Expr :=
  .binary .mul (.binary .div (.number Word.least) (.number (-1))) (.number 0)

theorem outcome_exact_at_quotient :
    (∃ op l r a b, quotientTimesZero.firstFault? = some (.binary op l r)
        ∧ l.exactValue? = some a ∧ r.exactValue? = some b
        ∧ (vm .standard).outcome quotientTimesZero = .error (.execution (.arithmetic
            (if op = .div ∧ b = 0 then .divisionByZero a else .overflow op a b))))
      ∧ ∃ op l r a b, quotientTimesZero.firstFault? = some (.binary op l r)
        ∧ l.exactValue? = some a ∧ r.exactValue? = some b
        ∧ (interpreter ⟨2, by decide, by decide⟩).outcome quotientTimesZero
            = .error (.execution (.arithmetic
                (if op = .div ∧ b = 0 then .divisionByZero a else .overflow op a b))) := by
  have hpure : quotientTimesZero.Pure := by decide
  have hrange : quotientTimesZero.InRange := by decide
  have hnot : ¬ ∀ s ∈ quotientTimesZero.subtrees, s.Representable := by decide
  have hvm : (vm .standard).Covers quotientTimesZero := rfl
  have hinterpreter : (interpreter ⟨2, by decide, by decide⟩).Covers quotientTimesZero :=
    Nat.le_of_eq (Expr.measuredHeight_eq_height _)
  exact ⟨(outcome_exact hpure hrange hvm).2 hnot,
    (outcome_exact hpure hrange hinterpreter).2 hnot⟩

end Executor

end Reckoner
