import Reckoner.Proofs.ExecutorAgreement
import Reckoner.Proofs.ParserImage
import Reckoner.Settings

/-!
# The value of a text

Under given settings a text has one value, or one reason for having none, and it does not matter
which executor is asked (`Settings.textValue`). The parser and the interpreter are given the same
bound. A tree that comes from the parser keeps it, so the interpreter never complains about depth
and, like the machine, computes the recursion on the tree.

Two kinds of failure are left: the text is not an expression, or some operator has no result on its
operands (`textValue_error_cases`). Neither the compiler nor the machine is ever at fault. A value
fits into a word, because every literal and every result of an operator does.

Everything that is said of a host of the executors, be it a run of the program or the service, is
said through `Settings.textValue`.
-/

namespace Reckoner

/-! ## Trees that come from the parser -/

theorem Expr.inRange_of_parserShaped {t : Expr} (ht : t.ParserShaped) : t.InRange := by
  induction t with
  | number n =>
    have hleast : Word.least ≤ 0 := by decide
    exact ⟨Int.le_trans hleast ht.1, ht.2⟩
  | foreign kind => exact ht.elim
  | binary op l r ihl ihr => exact ⟨ihl ht.1, ihr ht.2.1⟩

namespace Parser

variable {text : String} {t : Expr}

theorem pure_of_parse {bound : Int} (h : parse bound text = .ok t) : t.Pure :=
  Expr.pure_of_parserShaped (parserShaped_of_parse h).1

theorem inRange_of_parse {bound : Int} (h : parse bound text = .ok t) : t.InRange :=
  Expr.inRange_of_parserShaped (parserShaped_of_parse h).1

/-- A bound that the parser kept is a bound that the interpreter keeps, and so is a greater one. A
number alone is not compared with the bound, and has no level either. -/
theorem measuredHeight_le_of_parse {bound : Int} {levels : Nat} (h : parse bound text = .ok t)
    (hle : bound ≤ levels) : t.measuredHeight ≤ levels := by
  rcases (parserShaped_of_parse h).2 with ⟨n, rfl⟩ | hheight
  · rw [Expr.measuredHeight_eq_height]
    exact Nat.zero_le _
  · exact Int.ofNat_le.mp (Int.le_trans hheight hle)

end Parser

/-! ## Values -/

theorem Operator.inRange_of_apply {op : Operator} {a b v : Int} (h : op.apply a b = .ok v) :
    Word.InRange v := by
  unfold Operator.apply at h
  split at h
  · cases h
  · split at h
    · next hrange =>
      cases h
      exact hrange
    · cases h

theorem Interpreter.inRange_of_evaluateFreely {e : Expr} {v : Int} (hrange : e.InRange)
    (h : evaluateFreely e = .ok v) : Word.InRange v := by
  cases e with
  | number n =>
    cases h
    exact hrange
  | foreign kind => cases h
  | binary op l r =>
    obtain ⟨a, b, _, _, happly⟩ := combine_eq_ok_iff.mp h
    exact Operator.inRange_of_apply happly

namespace Settings

/-- The value of a text under the settings, by the recursion on its tree. -/
def textValue (s : Settings) (text : String) : Except CalcError Int :=
  match Parser.parse s.maxDepth.levels text with
  | .error cause => .error (.parse cause)
  | .ok e => (Interpreter.evaluateFreely e).mapError .execution

variable {s : Settings} {text : String}

theorem textValue_of_error {cause : SyntaxError}
    (h : Parser.parse s.maxDepth.levels text = .error cause) :
    s.textValue text = .error (.parse cause) := by
  rw [textValue, h]

/-- **Either executor gives a tree that comes from the parser the value of its text.** -/
theorem outcome_of_parse {t : Expr} (h : Parser.parse s.maxDepth.levels text = .ok t)
    (kind : ExecutorKind) : (s.executor .standard kind).outcome t = s.textValue text := by
  have hcovers : (s.executor .standard kind).Covers t := by
    cases kind with
    | interpreter => exact Parser.measuredHeight_le_of_parse h (Int.le_refl _)
    | vm => rfl
  rw [Executor.outcome_of_covers (Parser.pure_of_parse h) hcovers, textValue, h]

/-- **A text without a value is no expression, or its arithmetic fails.** -/
theorem textValue_error_cases {x : CalcError} (h : s.textValue text = .error x) :
    (∃ cause, Parser.parse s.maxDepth.levels text = .error cause ∧ x = .parse cause)
      ∨ ∃ t cause, Parser.parse s.maxDepth.levels text = .ok t
          ∧ x = .execution (.arithmetic cause) := by
  rw [textValue] at h
  rcases hparse : Parser.parse s.maxDepth.levels text with cause | t
  · rw [hparse] at h
    cases h
    exact Or.inl ⟨cause, rfl, rfl⟩
  · rw [hparse] at h
    obtain ⟨y, hy, rfl⟩ := mapError_eq_error_iff.mp h
    obtain ⟨cause, rfl⟩ :=
      Interpreter.evaluateFreely_error_arithmetic (Parser.pure_of_parse hparse) hy
    exact Or.inr ⟨t, cause, rfl, rfl⟩

theorem inRange_of_textValue {v : Int} (h : s.textValue text = .ok v) : Word.InRange v := by
  rw [textValue] at h
  rcases hparse : Parser.parse s.maxDepth.levels text with cause | t
  · rw [hparse] at h
    cases h
  · rw [hparse] at h
    exact Interpreter.inRange_of_evaluateFreely (Parser.inRange_of_parse hparse)
      (mapError_eq_ok_iff.mp h)

end Settings

end Reckoner
