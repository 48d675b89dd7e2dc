import Reckoner.Proofs.Decompilation
import Reckoner.Proofs.WordInvariant

/-!
# Trees with foreign leaves

A foreign leaf has no value, and a tree with one has none either. This file says what is reported in
its place, and it takes places in the tree for that: an address is the list of operands that lead
from the root to a subtree, and one address precedes another if they part at some operator and the
first goes to the left there.

The virtual machine looks at the whole tree before it computes anything. Its compiler visits the
leaves from left to right, so it names the leftmost foreign leaf, and the second phase is not even
begun. The interpreter computes on its way. It may come to grief before it comes to the leaf: over
the depth bound, or over arithmetic. Which arithmetic that can be is the point of the last part. An
operator is applied only when both operands have values, so none of them has a foreign leaf; and the
evaluation goes into a right operand only when the left one has a value, so it never gets past a
foreign leaf (`RaisesAt.precedes`). Both follow from one fact, that only a tree without foreign
leaves has a value.
-/

namespace Reckoner

/-! ## Places in a tree -/

namespace Expr

/-- Which operand of an operator. -/
inductive Side where
  | left
  | right
  deriving DecidableEq, Repr

/-- A place in a tree: the operands that lead to it from the root. -/
abbrev Address := List Side

/-- One place comes before another from left to right: at some operator the way to the first leads
into the left operand, and the way to the second into the right one. -/
def Address.Precedes (p q : Address) : Prop :=
  ∃ common : Address, common ++ [.left] <+: p ∧ common ++ [.right] <+: q

theorem Address.left_precedes_right (p q : Address) :
    Address.Precedes (.left :: p) (.right :: q) :=
  ⟨[], by simp, by simp⟩

theorem Address.Precedes.cons {p q : Address} (h : p.Precedes q) (side : Side) :
    Address.Precedes (side :: p) (side :: q) := by
  obtain ⟨common, hp, hq⟩ := h
  exact ⟨side :: common, List.cons_prefix_cons.mpr ⟨rfl, hp⟩, List.cons_prefix_cons.mpr ⟨rfl, hq⟩⟩

/-- The subtree at an address, unless the address leads out of the tree. -/
def subtreeAt? : Expr → Address → Option Expr
  | e, [] => some e
  | binary _ l _, .left :: p => l.subtreeAt? p
  | binary _ _ r, .right :: p => r.subtreeAt? p
  | _, _ => none

theorem pure_of_subtreeAt? {e s : Expr} {p : Address} (hpure : e.Pure)
    (h : e.subtreeAt? p = some s) : s.Pure := by
  fun_induction subtreeAt? e p with
  | case1 e =>
    cases h
    exact hpure
  | case2 op l r p ih => exact ih hpure.1 h
  | case3 op l r p ih => exact ih hpure.2 h
  | case4 => cases h

/-- A foreign leaf of a tree that precedes every other one. -/
structure LeftmostForeign (e : Expr) (q : Address) (kind : String) : Prop where
  leaf : e.subtreeAt? q = some (.foreign kind)
  precedes : ∀ q' kind', e.subtreeAt? q' = some (.foreign kind') → q' ≠ q → q.Precedes q'

/-- The leaf that comes first in the recursion is the leftmost one. -/
theorem exists_leftmostForeign {e : Expr} {kind : String} (h : e.firstForeign? = some kind) :
    ∃ q, e.LeftmostForeign q kind := by
  induction e with
  | number n => cases h
  | foreign kind' =>
    cases h
    refine ⟨[], rfl, ?_⟩
    intro q' kind' hleaf hne
    cases q' with
    | nil => exact absurd rfl hne
    | cons side q' => cases side <;> cases hleaf
  | binary op l r ihl ihr =>
    rw [firstForeign?] at h
    rcases hl : l.firstForeign? with _ | kindl
    · -- There is none on the left, so every foreign leaf lies where the recursion has found one.
      have hpure : l.Pure := (firstForeign?_eq_none_iff l).mp hl
      rw [hl, Option.none_or] at h
      obtain ⟨q, hq⟩ := ihr h
      refine ⟨.right :: q, hq.leaf, ?_⟩
      rintro (_ | ⟨_ | _, q'⟩) kind' hleaf hne
      · cases hleaf
      · exact (pure_of_subtreeAt? hpure hleaf).elim
      · exact (hq.precedes q' kind' hleaf fun heq => hne (by rw [heq])).cons .right
    · rw [hl, Option.some_or] at h
      obtain ⟨q, hq⟩ := ihl (hl.trans h)
      refine ⟨.left :: q, hq.leaf, ?_⟩
      rintro (_ | ⟨_ | _, q'⟩) kind' hleaf hne
      · cases hleaf
      · exact (hq.precedes q' kind' hleaf fun heq => hne (by rw [heq])).cons .left
      · exact Address.left_precedes_right q q'

theorem pure_iff_subtreeAt? {e : Expr} :
    e.Pure ↔ ∀ q kind, e.subtreeAt? q ≠ some (.foreign kind) := by
  constructor
  · intro hpure q kind hleaf
    exact pure_of_subtreeAt? hpure hleaf
  · intro hnone
    rw [← firstForeign?_eq_none_iff]
    by_contra hsome
    obtain ⟨kind, hkind⟩ := Option.ne_none_iff_exists'.mp hsome
    obtain ⟨q, hq⟩ := exists_leftmostForeign hkind
    exact hnone q kind hq.leaf

end Expr

/-! ## The virtual machine -/

/-- The first phase stops at the leaf, and so it does not matter what the second phase is. -/
theorem Executor.execute_vm_of_firstForeign? {e : Expr} {kind : String}
    (h : e.firstForeign? = some kind) (run : Program → Logged (Except ExecutionError Int)) :
    (vm ⟨Compiler.compileNoted, run⟩).execute e
      = .quietly (.error (.compile (.foreignNode kind))) := by
  have hcompile : Compiler.compileNoted e = .quietly (.error (.foreignNode kind)) := by
    rw [Compiler.compileNoted, Compiler.compile_eq, h]
  rw [execute, StackVm.execute]
  dsimp only
  rw [hcompile]
  rfl

/-! ## The interpreter -/

namespace Interpreter

theorem pure_of_evaluateAt {bound depth : Nat} {e : Expr} {v : Int}
    (h : evaluateAt bound depth e = .ok v) : e.Pure :=
  pure_of_evaluateFreely (evaluateFreely_of_evaluateAt h (by simp))

/-- Without a bound, a tree with foreign leaves fails over the first of them or over arithmetic. -/
theorem evaluateFreely_of_firstForeign? {e : Expr} {kind : String}
    (h : e.firstForeign? = some kind) :
    evaluateFreely e = .error (.unknownNode kind)
      ∨ ∃ cause, evaluateFreely e = .error (.arithmetic cause) := by
  induction e with
  | number n => cases h
  | foreign kind' =>
    cases h
    exact Or.inl rfl
  | binary op l r ihl ihr =>
    rw [Expr.firstForeign?] at h
    rw [evaluateFreely]
    rcases hl : l.firstForeign? with _ | kindl
    · rw [hl, Option.none_or] at h
      rcases hvalue : evaluateFreely l with x | a
      · -- The left operand has no foreign leaf, so it can fail over arithmetic only.
        obtain ⟨cause, rfl⟩ := evaluateFreely_error_arithmetic
          ((Expr.firstForeign?_eq_none_iff l).mp hl) hvalue
        exact Or.inr ⟨cause, rfl⟩
      · rcases ihr h with hr | ⟨cause, hr⟩
        · exact Or.inl (by rw [hr, combine])
        · exact Or.inr ⟨cause, by rw [hr, combine]⟩
    · rw [hl, Option.some_or] at h
      rcases ihl (hl.trans h) with hl | ⟨cause, hl⟩
      · exact Or.inl (by rw [hl, combine])
      · exact Or.inr ⟨cause, by rw [hl, combine]⟩

/-- The evaluation of a tree comes to an operator at this address, with values for both operands,
and the operator has no result on them. -/
inductive RaisesAt (bound : Nat) : Nat → Expr → Expr.Address → ArithmeticError → Prop
  | here {depth : Nat} {op : Operator} {l r : Expr} {a b : Int} {cause : ArithmeticError}
      (hentered : depth < bound) (hleft : evaluateAt bound (depth + 1) l = .ok a)
      (hright : evaluateAt bound (depth + 1) r = .ok b) (hfails : op.apply a b = .error cause) :
      RaisesAt bound depth (.binary op l r) [] cause
  | left {depth : Nat} {op : Operator} {l r : Expr} {p : Expr.Address} {cause : ArithmeticError}
      (hentered : depth < bound) (h : RaisesAt bound (depth + 1) l p cause) :
      RaisesAt bound depth (.binary op l r) (.left :: p) cause
  | right {depth : Nat} {op : Operator} {l r : Expr} {a : Int} {p : Expr.Address}
      {cause : ArithmeticError} (hentered : depth < bound)
      (hleft : evaluateAt bound (depth + 1) l = .ok a) (h : RaisesAt bound (depth + 1) r p cause) :
      RaisesAt bound depth (.binary op l r) (.right :: p) cause

/-- An arithmetic error is raised at some operator, and what is raised there is the outcome. -/
theorem evaluateAt_eq_arithmetic_iff {bound depth : Nat} {e : Expr} {cause : ArithmeticError} :
    evaluateAt bound depth e = .error (.arithmetic cause)
      ↔ ∃ p, RaisesAt bound depth e p cause := by
  constructor
  · intro h
    induction e generalizing depth with
    | number n => cases h
    | foreign kind => cases h
    | binary op l r ihl ihr =>
      by_cases hentered : depth < bound
      · rw [evaluateAt_binary_of_lt op l r hentered, combine_eq_error_iff] at h
        rcases h with hl | ⟨a, ha, hr⟩ | ⟨a, b, cause', ha, hb, hfails, hcause⟩
        · obtain ⟨p, hp⟩ := ihl hl
          exact ⟨.left :: p, .left hentered hp⟩
        · obtain ⟨p, hp⟩ := ihr hr
          exact ⟨.right :: p, .right hentered ha hp⟩
        · cases hcause
          exact ⟨[], .here hentered ha hb hfails⟩
      · rw [evaluateAt_binary_of_le op l r (by omega)] at h
        cases h
  · rintro ⟨p, h⟩
    induction h with
    | here hentered ha hb hfails =>
      rw [evaluateAt_binary_of_lt _ _ _ hentered, combine_eq_error_iff]
      exact Or.inr (Or.inr ⟨_, _, _, ha, hb, hfails, rfl⟩)
    | left hentered _ ih =>
      rw [evaluateAt_binary_of_lt _ _ _ hentered, combine_eq_error_iff]
      exact Or.inl ih
    | right hentered ha _ ih =>
      rw [evaluateAt_binary_of_lt _ _ _ hentered, combine_eq_error_iff]
      exact Or.inr (Or.inl ⟨_, ha, ih⟩)

section RaisesAt

variable {bound depth : Nat} {e : Expr} {p : Expr.Address} {cause : ArithmeticError}

theorem RaisesAt.exists_node (h : RaisesAt bound depth e p cause) :
    ∃ op l r, e.subtreeAt? p = some (.binary op l r) ∧ (Expr.binary op l r).Pure := by
  induction h with
  | here _ ha hb _ => exact ⟨_, _, _, rfl, pure_of_evaluateAt ha, pure_of_evaluateAt hb⟩
  | left _ _ ih => exact ih
  | right _ _ _ ih => exact ih

/-- **The evaluation does not get past a foreign leaf.** -/
theorem RaisesAt.precedes (h : RaisesAt bound depth e p cause) {q : Expr.Address} {kind : String}
    (hleaf : e.subtreeAt? q = some (.foreign kind)) : p.Precedes q := by
  -- Wherever the leaf is, it is not in an operand that has a value.
  have hvalue : ∀ {s : Expr} {depth : Nat} {v : Int} {q' : Expr.Address},
      evaluateAt bound depth s = .ok v → s.subtreeAt? q' = some (.foreign kind) → False := by
    intro s depth v q' hv hforeign
    exact Expr.pure_of_subtreeAt? (pure_of_evaluateAt hv) hforeign
  induction h generalizing q with
  | here _ ha hb _ =>
    rcases q with _ | ⟨_ | _, q⟩
    · cases hleaf
    · exact (hvalue ha hleaf).elim
    · exact (hvalue hb hleaf).elim
  | left _ _ ih =>
    rcases q with _ | ⟨_ | _, q⟩
    · cases hleaf
    · exact (ih hleaf).cons .left
    · exact Expr.Address.left_precedes_right _ q
  | right _ ha _ ih =>
    rcases q with _ | ⟨_ | _, q⟩
    · cases hleaf
    · exact (hvalue ha hleaf).elim
    · exact (ih hleaf).cons .right

end RaisesAt

end Interpreter

/-! ## Both -/

namespace Executor

/-- A tree without foreign leaves fails over the interpreter's bound or over arithmetic. -/
theorem outcome_error_of_pure {e : Expr} (hpure : e.Pure) {bound : DepthBound} {x : Executor}
    (hx : x ∈ [interpreter bound, vm .standard]) {error : CalcError}
    (herror : x.outcome e = .error error) :
    error = .execution (.tooDeep bound.levels)
      ∨ ∃ cause, error = .execution (.arithmetic cause) := by
  have hfree : ∀ {y}, Interpreter.evaluateFreely e = .error y →
      ∃ cause, CalcError.execution y = .execution (.arithmetic cause) := by
    intro y hy
    obtain ⟨cause, rfl⟩ := Interpreter.evaluateFreely_error_arithmetic hpure hy
    exact ⟨cause, rfl⟩
  simp only [List.mem_cons, List.not_mem_nil, or_false] at hx
  rcases hx with rfl | rfl
  · rw [outcome_interpreter, mapError_eq_error_iff] at herror
    obtain ⟨y, hy, rfl⟩ := herror
    rcases Interpreter.evaluateAt_tooDeep_or_eq bound.levels 0 e with hcut | heq
    · have hdeep : y = .tooDeep bound.levels := Except.error.inj (hy.symm.trans hcut)
      exact Or.inl (by rw [hdeep])
    · exact Or.inr (hfree (heq.symm.trans hy))
  · rw [outcome_vm_of_pure hpure, mapError_eq_error_iff] at herror
    obtain ⟨y, hy, rfl⟩ := herror
    exact Or.inr (hfree hy)

/-- What the interpreter makes of a tree with foreign leaves. -/
theorem outcome_interpreter_of_firstForeign? {e : Expr} {kind : String}
    (h : e.firstForeign? = some kind) (bound : DepthBound) :
    (interpreter bound).outcome e = .error (.execution (.unknownNode kind))
      ∨ (interpreter bound).outcome e = .error (.execution (.tooDeep bound.levels))
      ∨ ∃ cause, (interpreter bound).outcome e = .error (.execution (.arithmetic cause)) := by
  rw [outcome_interpreter, Interpreter.evaluate]
  rcases Interpreter.evaluateAt_tooDeep_or_eq bound.levels 0 e with hcut | heq
  · rw [hcut]
    exact Or.inr (Or.inl rfl)
  · rw [heq]
    rcases Interpreter.evaluateFreely_of_firstForeign? h with hunknown | ⟨cause, harithmetic⟩
    · rw [hunknown]
      exact Or.inl rfl
    · rw [harithmetic]
      exact Or.inr (Or.inr ⟨cause, rfl⟩)

/-- **A foreign leaf leaves no value.** Let a tree have a foreign leaf, and consider the leftmost
one. The virtual machine refuses to compile its kind, whatever else is wrong with the tree, and it
does so before anything is run: with any machine in the second phase the outcome is the same, and
nothing is noted. The interpreter has no value either. It reports that leaf, its bound, or an
arithmetic error, and the last is raised at an operator that has no foreign leaf below it and that
precedes the leaf. A tree without foreign leaves is reported by neither executor as having one. -/
theorem foreign_leaf_leaves_no_value (e : Expr) (bound : DepthBound) :
    ((∃ q kind, e.subtreeAt? q = some (.foreign kind)) →
      ∃ q kind, e.LeftmostForeign q kind
        ∧ (vm .standard).outcome e = .error (.compile (.foreignNode kind))
        ∧ (CompileError.foreignNode kind).message = "cannot compile node of type " ++ kind
        ∧ (∀ run, (vm ⟨Compiler.compileNoted, run⟩).execute e
            = .quietly (.error (.compile (.foreignNode kind))))
        ∧ ((interpreter bound).outcome e = .error (.execution (.unknownNode kind))
            ∨ (interpreter bound).outcome e = .error (.execution (.tooDeep bound.levels))
            ∨ ∃ cause, (interpreter bound).outcome e = .error (.execution (.arithmetic cause)))
        ∧ (∀ cause, (interpreter bound).outcome e = .error (.execution (.arithmetic cause))
            ↔ ∃ p, Interpreter.RaisesAt bound.levels 0 e p cause)
        ∧ ∀ p cause, Interpreter.RaisesAt bound.levels 0 e p cause →
            p.Precedes q
              ∧ ∃ op l r, e.subtreeAt? p = some (.binary op l r) ∧ (Expr.binary op l r).Pure)
      ∧ ((∀ q kind, e.subtreeAt? q ≠ some (.foreign kind)) →
          ∀ x ∈ [interpreter bound, vm .standard],
            (∀ kind, x.outcome e ≠ .error (.execution (.unknownNode kind)))
              ∧ ∀ cause, x.outcome e ≠ .error (.compile cause)) := by
  constructor
  · rintro ⟨q', kind', hleaf⟩
    have hsome : e.firstForeign? ≠ none := by
      rw [Ne, Expr.firstForeign?_eq_none_iff, Expr.pure_iff_subtreeAt?]
      exact fun hnone => hnone q' kind' hleaf
    obtain ⟨kind, hkind⟩ := Option.ne_none_iff_exists'.mp hsome
    obtain ⟨q, hq⟩ := Expr.exists_leftmostForeign hkind
    refine ⟨q, kind, hq, ?_, rfl, execute_vm_of_firstForeign? hkind,
      outcome_interpreter_of_firstForeign? hkind bound, ?_, ?_⟩
    · rw [outcome, StackVm.standard, execute_vm_of_firstForeign? hkind]
      rfl
    · intro cause
      rw [outcome_interpreter, mapError_eq_error_iff, ← Interpreter.evaluateAt_eq_arithmetic_iff]
      simp [Interpreter.evaluate]
    · intro p cause hraises
      exact ⟨hraises.precedes hq.leaf, hraises.exists_node⟩
  · intro hnone x hx
    have hpure : e.Pure := Expr.pure_iff_subtreeAt?.mpr hnone
    constructor
    · intro kind hunknown
      rcases outcome_error_of_pure hpure hx hunknown with heq | ⟨cause, heq⟩ <;> cases heq
    · intro cause hcompile
      rcases outcome_error_of_pure hpure hx hcompile with heq | ⟨cause, heq⟩ <;> cases heq

/-- `(1 / 0 + ?) * ?` with two foreign leaves of different kinds, behind a division by zero. -/
def divisionBesideForeign : Expr :=
  .binary .mul
    (.binary .add (.binary .div (.number 1) (.number 0)) (.foreign "str"))
    (.foreign "list")

/-- The machine names the first of the leaves. The interpreter does not come to it, and what it
reports is raised at an operator before that leaf. -/
theorem foreign_leaf_leaves_no_value_behind_division :
    (∃ q kind, divisionBesideForeign.subtreeAt? q = some (.foreign kind))
      ∧ (vm .standard).outcome divisionBesideForeign = .error (.compile (.foreignNode "str"))
      ∧ (interpreter .standard).outcome divisionBesideForeign
          = .error (.execution (.arithmetic (.divisionByZero 1)))
      ∧ ∃ p q, Interpreter.RaisesAt 200 0 divisionBesideForeign p (.divisionByZero 1)
          ∧ divisionBesideForeign.LeftmostForeign q "str" ∧ p.Precedes q := by
  have hleaf : ∃ q kind, divisionBesideForeign.subtreeAt? q = some (.foreign kind) :=
    ⟨[.right], "list", rfl⟩
  have hvm : (vm .standard).outcome divisionBesideForeign
      = .error (.compile (.foreignNode "str")) := by decide +kernel
  have hinterpreter : (interpreter .standard).outcome divisionBesideForeign
      = .error (.execution (.arithmetic (.divisionByZero 1))) := by decide
  obtain ⟨q, kind, hq, hnamed, _, _, _, hraised, hprecedes⟩ :=
    (foreign_leaf_leaves_no_value divisionBesideForeign .standard).1 hleaf
  obtain ⟨p, hp⟩ := (hraised _).mp hinterpreter
  cases hvm.symm.trans hnamed
  exact ⟨hleaf, hvm, hinterpreter, p, q, hp, hq, (hprecedes p _ hp).1⟩

end Executor

end Reckoner
