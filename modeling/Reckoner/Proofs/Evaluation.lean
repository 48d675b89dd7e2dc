import Reckoner.Interpreter
import Reckoner.Expr.Walk

/-!
# Evaluation without a bound

The interpreter gives up on entering an operator node that lies too deep. `evaluateFreely` is the
same recursion without that check, and it is the yardstick everything else is held against: the
interpreter under a bound, here, and the compiled program, in `Reckoner.Proofs.Compilation`.

A bound can do one thing only, and that is to replace an outcome by `tooDeep`
(`evaluateAt_tooDeep_or_eq`). It does not do so to a tree that keeps the bound
(`evaluateAt_eq_evaluateFreely`), and a tree that breaks the bound never gets a value
(`evaluateAt_ne_ok_of_lt`): its deepest operator is reached before the root can be computed, unless
some arithmetic on the way fails first.

The height is the one that the walk with a list of pending subtrees measures. It is the height by
recursion (`measuredHeight_eq_height`), and the lemmas use the latter.
-/

namespace Reckoner

/-! ## The measured height -/

namespace Expr

/-- Finishing the subtree at the head of the list first: the walk is left with the others and with
the deepest level of that subtree taken into account. -/
theorem heightLoop_cons (e : Expr) (depth : Nat) (todo : List (Expr × Nat)) (deepest : Nat) :
    heightLoop ((e, depth) :: todo) deepest
      = heightLoop todo (max deepest (depth + e.height)) := by
  induction e generalizing depth todo deepest with
  | number n => rw [heightLoop, height, Nat.add_zero]
  | foreign kind => rw [heightLoop, height, Nat.add_zero]
  | binary op l r ihl ihr =>
    -- The node is exchanged for its operands, which the walk finishes one after the other.
    rw [heightLoop, ihl, ihr, height]
    congr 1
    omega

/-- **The walk measures the height.** -/
theorem measuredHeight_eq_height (e : Expr) : e.measuredHeight = e.height := by
  rw [measuredHeight, heightLoop_cons, heightLoop, Nat.zero_add, Nat.zero_max]

end Expr

/-! ## Renamed errors -/

section MapError

variable {ε ε' α : Type} {x : Except ε α} {f : ε → ε'}

theorem mapError_eq_ok_iff {a : α} : x.mapError f = .ok a ↔ x = .ok a := by
  constructor
  · intro h
    rcases x with e | b <;> cases h
    rfl
  · rintro rfl
    rfl

theorem mapError_eq_error_iff {e' : ε'} :
    x.mapError f = .error e' ↔ ∃ e, x = .error e ∧ e' = f e := by
  constructor
  · intro h
    rcases x with e | b <;> cases h
    exact ⟨e, rfl, rfl⟩
  · rintro ⟨e, rfl, rfl⟩
    rfl

end MapError

namespace Interpreter

/-! ## The recursion without a bound -/

/-- What an operator node comes to, given what its operands come to: the left operand's failure
counts first, then the right one's, and between two values it is the operator that decides. -/
def combine (op : Operator) :
    Except ExecutionError Int → Except ExecutionError Int → Except ExecutionError Int
  | .error e, _ => .error e
  | .ok _, .error e => .error e
  | .ok left, .ok right => (op.apply left right).mapError .arithmetic

/-- The value of a tree by recursion on it, left operand first, however deep it is. -/
def evaluateFreely : Expr → Except ExecutionError Int
  | .number n => .ok n
  | .foreign kind => .error (.unknownNode kind)
  | .binary op l r => combine op (evaluateFreely l) (evaluateFreely r)

/-- A node has a value exactly when its operands have one and the operator has a result. -/
theorem combine_eq_ok_iff {op : Operator} {x y : Except ExecutionError Int} {v : Int} :
    combine op x y = .ok v ↔ ∃ a b, x = .ok a ∧ y = .ok b ∧ op.apply a b = .ok v := by
  constructor
  · intro h
    rcases x with e | a
    · cases h
    rcases y with e | b
    · cases h
    exact ⟨a, b, rfl, rfl, mapError_eq_ok_iff.mp h⟩
  · rintro ⟨a, b, rfl, rfl, h⟩
    exact mapError_eq_ok_iff.mpr h

/-- A node fails by its left operand, by its right one, or by its own operator. -/
theorem combine_eq_error_iff {op : Operator} {x y : Except ExecutionError Int}
    {e : ExecutionError} :
    combine op x y = .error e ↔
      x = .error e ∨ (∃ a, x = .ok a ∧ y = .error e)
        ∨ ∃ a b cause, x = .ok a ∧ y = .ok b ∧ op.apply a b = .error cause
            ∧ e = .arithmetic cause := by
  constructor
  · intro h
    rcases x with e' | a
    · exact Or.inl h
    rcases y with e' | b
    · exact Or.inr (Or.inl ⟨a, rfl, h⟩)
    obtain ⟨cause, happ, he⟩ := mapError_eq_error_iff.mp h
    exact Or.inr (Or.inr ⟨a, b, cause, rfl, rfl, happ, he⟩)
  · rintro (rfl | ⟨a, rfl, rfl⟩ | ⟨a, b, cause, rfl, rfl, happ, rfl⟩)
    · rfl
    · rfl
    · exact mapError_eq_error_iff.mpr ⟨cause, happ, rfl⟩

/-- A tree without foreign leaves fails by arithmetic or not at all. -/
theorem evaluateFreely_error_arithmetic {e : Expr} {x : ExecutionError} (hpure : e.Pure)
    (hx : evaluateFreely e = .error x) : ∃ cause, x = .arithmetic cause := by
  induction e with
  | number n => cases hx
  | foreign kind => exact hpure.elim
  | binary op l r ihl ihr =>
    rw [evaluateFreely, combine_eq_error_iff] at hx
    rcases hx with hl | ⟨_, _, hr⟩ | ⟨_, _, cause, _, _, _, rfl⟩
    · exact ihl hpure.1 hl
    · exact ihr hpure.2 hr
    · exact ⟨cause, rfl⟩

/-! ## What a bound does -/

theorem evaluateAt_binary_of_le {bound depth : Nat} (op : Operator) (l r : Expr)
    (hle : bound ≤ depth) : evaluateAt bound depth (.binary op l r) = .error (.tooDeep bound) := by
  rw [evaluateAt, if_pos hle]

/-- Above the bound an operator node is what its operands one level down make of it. -/
theorem evaluateAt_binary_of_lt {bound depth : Nat} (op : Operator) (l r : Expr)
    (hlt : depth < bound) :
    evaluateAt bound depth (.binary op l r)
      = combine op (evaluateAt bound (depth + 1) l) (evaluateAt bound (depth + 1) r) := by
  rw [evaluateAt, if_neg (Nat.not_le.mpr hlt)]
  rcases evaluateAt bound (depth + 1) l with e | a
  · rfl
  rcases evaluateAt bound (depth + 1) r with e | b
  · rfl
  dsimp only [combine]
  rcases op.apply a b with cause | v <;> rfl

/-- **A kept bound does nothing.** -/
theorem evaluateAt_eq_evaluateFreely {bound depth : Nat} {e : Expr}
    (hle : depth + e.height ≤ bound) : evaluateAt bound depth e = evaluateFreely e := by
  induction e generalizing depth with
  | number n => rfl
  | foreign kind => rfl
  | binary op l r ihl ihr =>
    rw [Expr.height] at hle
    rw [evaluateAt_binary_of_lt op l r (by omega), ihl (by omega), ihr (by omega), evaluateFreely]

/-- **A bound only cuts off.** Whatever the depth, the outcome is the complaint about the bound or
what a larger bound gives. -/
theorem evaluateAt_tooDeep_or_eq_of_le {bound bound' : Nat} (hle : bound ≤ bound') (depth : Nat)
    (e : Expr) :
    evaluateAt bound depth e = .error (.tooDeep bound)
      ∨ evaluateAt bound depth e = evaluateAt bound' depth e := by
  induction e generalizing depth with
  | number n => exact Or.inr rfl
  | foreign kind => exact Or.inr rfl
  | binary op l r ihl ihr =>
    rcases Nat.lt_or_ge depth bound with hlt | hge
    · rw [evaluateAt_binary_of_lt op l r hlt,
        evaluateAt_binary_of_lt op l r (Nat.lt_of_lt_of_le hlt hle)]
      rcases ihl (depth + 1) with hl | hl
      · exact Or.inl (by rw [hl, combine])
      -- The left operand was not cut off. If it failed, then for its own reason, and whether the
      -- right one is too deep does not come up.
      rw [hl]
      rcases evaluateAt bound' (depth + 1) l with e | a
      · exact Or.inr rfl
      rcases ihr (depth + 1) with hr | hr
      · exact Or.inl (by rw [hr, combine])
      · exact Or.inr (by rw [hr])
    · exact Or.inl (evaluateAt_binary_of_le op l r hge)

/-- In particular it is the complaint about the bound or what the recursion without a bound gives,
since a bound that is large enough does nothing. -/
theorem evaluateAt_tooDeep_or_eq (bound depth : Nat) (e : Expr) :
    evaluateAt bound depth e = .error (.tooDeep bound)
      ∨ evaluateAt bound depth e = evaluateFreely e := by
  have hcut := evaluateAt_tooDeep_or_eq_of_le (Nat.le_max_left bound (depth + e.height)) depth e
  rwa [evaluateAt_eq_evaluateFreely (Nat.le_max_right bound (depth + e.height))] at hcut

/-- **A broken bound leaves no value.** The operand that is too high has none, so neither has the
node above it. -/
theorem evaluateAt_ne_ok_of_lt {bound depth : Nat} {e : Expr} (hdepth : depth ≤ bound)
    (hlt : bound < depth + e.height) (v : Int) : evaluateAt bound depth e ≠ .ok v := by
  induction e generalizing depth v with
  | number n => rw [Expr.height] at hlt; omega
  | foreign kind => rw [Expr.height] at hlt; omega
  | binary op l r ihl ihr =>
    rcases Nat.lt_or_ge depth bound with hin | hout
    · rw [evaluateAt_binary_of_lt op l r hin]
      intro hok
      obtain ⟨a, b, hl, hr, _⟩ := combine_eq_ok_iff.mp hok
      rw [Expr.height] at hlt
      -- It is the higher operand that breaks the bound one level down.
      rcases Nat.le_total r.height l.height with h | h
      · exact ihl hin (by omega) a hl
      · exact ihr hin (by omega) b hr
    · rw [evaluateAt_binary_of_le op l r hout]
      exact fun hok => nomatch hok

end Interpreter

end Reckoner
