import Reckoner.Proofs.ExecutorAgreement
import Reckoner.Proofs.ReaderStops

/-!
# Two depth bounds side by side

The reader and the interpreter both work under a depth bound, and both compare it with something at
every operator: the reader with the height of what it has just built, the interpreter with the depth
at which it is about to enter. This file says how the outcomes under two bounds are related. The
smaller bound cuts the work off and says so, or it makes no difference to the larger one.

What makes this more than a comparison of two conditions is that the check does not come first. The
reader makes it behind the right operand, so a fault in that operand comes before it; the
interpreter makes it before the left operand, and the right operand is not looked at if the left one
fails. In both cases the two runs are followed step by step: as long as the smaller bound has not
cut off, both have read the same text or computed the same values, and what the larger bound lets
pass the smaller one has let pass too. For the reader the step is one round of `chainLoop`, which
does it for terms and for expressions at once; for the interpreter it is one node, in
`evaluateAt_tooDeep_or_eq_of_le`.

Being cut off is monotone as well: what a bound cuts off, every smaller bound cuts off. So for each
text and for each tree there is one outcome, and below some bound there is the complaint in its
place.
-/

namespace Reckoner

open Grammar

/-! ## Reading -/

namespace Parser

/-- On every text the first reader stops for its bound or does what the second one does. -/
def Reader.CutsOff (reader reader' : Reader) (bound : Int) : Prop :=
  ∀ s, (∃ rest, reader.read s = .error ⟨.tooDeep bound, rest⟩) ∨ reader.read s = reader'.read s

section CutsOff

variable {level : Level} {operand operand' : Reader} {bound bound' : Int}

/-- One loop under two bounds. A round that both go through leaves both with the same tree and the
same rest, so the induction is along the loop under the smaller bound. -/
theorem chainLoop_cutsOff (hle : bound ≤ bound') (hoperand : operand.CutsOff operand' bound)
    (left : Expr) (height : Nat) (s : List Char) :
    (∃ rest, chainLoop level operand bound left height s = .error ⟨.tooDeep bound, rest⟩)
      ∨ chainLoop level operand bound left height s
          = chainLoop level operand' bound' left height s := by
  fun_induction chainLoop level operand bound left height s with
  | case1 left height s hs =>
    right
    rw [chainLoop_of_nil hs]
  | case2 left height s c after hs hop =>
    right
    rw [chainLoop_of_none hs hop]
  | case3 left height s c after hs op hop stop hr =>
    rcases hoperand after with ⟨rest, hcut⟩ | heq
    · left
      rw [hr] at hcut
      exact ⟨rest, hcut⟩
    · right
      rw [chainLoop_of_some hs hop, ← heq, hr]
  | case4 left height s c after hs op hop right hr hdeep =>
    left
    exact ⟨_, rfl⟩
  | case5 left height s c after hs op hop right hr hfits ih =>
    rcases hoperand after with ⟨rest, hcut⟩ | heq
    · rw [hr] at hcut
      cases hcut
    · have hfits' : ¬ bound' < (max height right.height + 1 : Nat) := by omega
      rw [chainLoop_of_some hs hop, ← heq, hr]
      simpa only [if_neg hfits'] using ih

theorem Reader.CutsOff.chain (hle : bound ≤ bound') (hoperand : operand.CutsOff operand' bound) :
    (Reader.chain level operand bound).CutsOff (.chain level operand' bound') bound := by
  intro s
  rw [read_chain, read_chain]
  rcases hoperand s with ⟨rest, hcut⟩ | heq
  · left
    exact ⟨rest, by rw [hcut]⟩
  · rw [← heq]
    rcases operand.read s with stop | first
    · exact Or.inr rfl
    · exact chainLoop_cutsOff hle hoperand first.tree first.height first.rest

end CutsOff

section CutOff

variable {bound bound' : Int} {text : String}

end CutOff

end Parser

/-! ## Evaluating -/

namespace Interpreter

/-- Without a bound there is no complaint about one. -/
theorem evaluateFreely_ne_tooDeep (e : Expr) (b : Int) :
    evaluateFreely e ≠ .error (.tooDeep b) := by
  induction e with
  | number n => simp [evaluateFreely]
  | foreign kind => simp [evaluateFreely]
  | binary op l r ihl ihr =>
    rw [evaluateFreely, Ne, combine_eq_error_iff]
    rintro (hl | ⟨_, _, hr⟩ | ⟨_, _, _, _, _, _, hcause⟩)
    · exact ihl hl
    · exact ihr hr
    · cases hcause

/-- Whoever complains about depth complains about the bound at hand. -/
theorem eq_of_evaluateAt_tooDeep {bound depth : Nat} {e : Expr} {b : Int}
    (h : evaluateAt bound depth e = .error (.tooDeep b)) : b = bound := by
  rcases evaluateAt_tooDeep_or_eq bound depth e with hcut | hfree
  · rw [hcut] at h
    cases h
    rfl
  · exact absurd (hfree.symm.trans h) (evaluateFreely_ne_tooDeep e b)

end Interpreter

namespace Executor

theorem outcome_interpreter_eq_tooDeep_iff {bound : DepthBound} {e : Expr} {b : Int} :
    (interpreter bound).outcome e = .error (.execution (.tooDeep b))
      ↔ Interpreter.evaluate bound e = .error (.tooDeep b) := by
  rw [outcome_interpreter, mapError_eq_error_iff]
  simp

/-- **The interpreter's bound only cuts off.** Let one bound be at most another, and let the tree be
any, foreign leaves included. The outcome under the smaller bound is the complaint about that bound,
or it is the outcome under the larger one, be it a value, an arithmetic error or a leaf without a
value. There is no complaint about depth if the tree is at most as high as the bound, and no value
if it is higher. And what the larger bound cuts off, the smaller one cuts off too. -/
theorem interpreter_bound_only_cuts_off {bound bound' : DepthBound}
    (hle : bound.levels ≤ bound'.levels) (e : Expr) :
    ((interpreter bound).outcome e = .error (.execution (.tooDeep bound.levels))
        ∨ (interpreter bound).outcome e = (interpreter bound').outcome e)
      ∧ (e.measuredHeight ≤ bound.levels →
          ∀ b, (interpreter bound).outcome e ≠ .error (.execution (.tooDeep b)))
      ∧ (bound.levels < e.measuredHeight → ∀ v, (interpreter bound).outcome e ≠ .ok v)
      ∧ ((interpreter bound').outcome e = .error (.execution (.tooDeep bound'.levels)) →
          (interpreter bound).outcome e = .error (.execution (.tooDeep bound.levels))) := by
  have hcases : Interpreter.evaluate bound e = .error (.tooDeep bound.levels)
      ∨ Interpreter.evaluate bound e = Interpreter.evaluate bound' e :=
    Interpreter.evaluateAt_tooDeep_or_eq_of_le hle 0 e
  rw [Expr.measuredHeight_eq_height]
  refine ⟨?_, ?_, ?_, ?_⟩
  · rw [outcome_interpreter_eq_tooDeep_iff, outcome_interpreter, outcome_interpreter]
    exact hcases.imp_right fun heq => by rw [heq]
  · intro hlow b
    have hfree : Interpreter.evaluate bound e = Interpreter.evaluateFreely e :=
      Interpreter.evaluateAt_eq_evaluateFreely (by omega)
    rw [Ne, outcome_interpreter_eq_tooDeep_iff, hfree]
    exact Interpreter.evaluateFreely_ne_tooDeep e b
  · intro hhigh v
    rw [outcome_interpreter, Ne, mapError_eq_ok_iff]
    exact Interpreter.evaluateAt_ne_ok_of_lt (Nat.zero_le _) (by omega) v
  · rw [outcome_interpreter_eq_tooDeep_iff, outcome_interpreter_eq_tooDeep_iff]
    intro hcut
    rcases hcases with hcut' | heq
    · exact hcut'
    · -- Nothing but its own bound makes the smaller one complain of depth.
      rw [hcut] at heq
      rw [heq, Interpreter.eq_of_evaluateAt_tooDeep heq]

/-- A sum with a foreign leaf on its left and two more levels of operators on its right. -/
def foreignBesideDepth : Expr :=
  .binary .add (.foreign "str")
    (.binary .add (.number 1) (.binary .add (.number 1) (.number 1)))

/-- The leaf decides before the right operand is looked at, so a bound of one level reports what a
bound of five hundred reports, although the tree is too high for the one and not for the other. -/
theorem interpreter_bound_only_cuts_off_behind_foreign_leaf :
    (interpreter ⟨1, by decide, by decide⟩).outcome foreignBesideDepth
        = .error (.execution (.unknownNode "str"))
      ∧ (interpreter ⟨500, by decide, by decide⟩).outcome foreignBesideDepth
        = .error (.execution (.unknownNode "str"))
      ∧ ∀ v, (interpreter ⟨1, by decide, by decide⟩).outcome foreignBesideDepth ≠ .ok v := by
  have hone : (interpreter ⟨1, by decide, by decide⟩).outcome foreignBesideDepth
      = .error (.execution (.unknownNode "str")) := by decide
  have hle : (⟨1, by decide, by decide⟩ : DepthBound).levels
      ≤ (⟨500, by decide, by decide⟩ : DepthBound).levels := by decide
  have hheight : foreignBesideDepth.measuredHeight = 3 := Expr.measuredHeight_eq_height _
  obtain ⟨hcases, _, hnone, _⟩ := interpreter_bound_only_cuts_off hle foreignBesideDepth
  refine ⟨hone, ?_, hnone (by rw [hheight]; decide)⟩
  rcases hcases with hcut | heq
  · rw [hone] at hcut
    cases hcut
  · rw [← heq, hone]

end Executor

end Reckoner
