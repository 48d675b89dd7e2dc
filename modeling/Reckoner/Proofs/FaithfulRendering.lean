import Mathlib.Logic.Relation
import Mathlib.Order.OrderIsoNat
import Reckoner.Proofs.ParserImage

/-!
# The rendering of a tree

The rendering with parentheses is made by a walk that keeps two stacks, one of items still to be
dealt with and one of finished texts, and nothing in the walk itself says that an operator finds the
texts of its operands on top of the second one. This file takes the walk apart into rounds
(`Rendering.Round`). A round is possible unless nothing is left to do or an operator finds fewer
than two texts. What all rounds keep is the result that the rest of the walk comes to, and while
there is one a round is possible; so from a whole tree the walk goes on without a failure until one
text is left, and that is the rendering by recursion. It ends, because each round leaves less to do.

The rendering determines the tree. There are no priorities to be taken into account, since every
operator has its parentheses; what has to be seen is where a part of the text ends. As with the
grammar of expressions, the statement is made about a tree with something behind it, and it is
enough that this something does not begin with a digit (`parenthesized_append_inj`). A minus sign
cannot be mistaken: in front of a number it is the first character of an operand, and as an operator
it stands behind a blank, where an operand has ended.
-/

namespace Reckoner

open Grammar

/-! ## The walk, round by round -/

namespace Expr

/-- A moment of the walk: the items that are still to be dealt with, and the finished texts, the
last one first. -/
structure Rendering where
  todo : List Pending
  done : List String

namespace Rendering

/-- One round of the walk. It takes one item off the list, and an operator takes two texts off the
stack, the upper one being that of its right operand. -/
inductive Round : Rendering → Rendering → Prop
  | number (n : Int) (todo : List Pending) (done : List String) :
      Round ⟨.visit (number n) :: todo, done⟩ ⟨todo, Text.decimal n :: done⟩
  | enter (op : Operator) (l r : Expr) (todo : List Pending) (done : List String) :
      Round ⟨.visit (binary op l r) :: todo, done⟩
        ⟨.visit l :: .visit r :: .finish op :: todo, done⟩
  | join (op : Operator) (left right : String) (todo : List Pending) (done : List String) :
      Round ⟨.finish op :: todo, right :: left :: done⟩
        ⟨todo, ("(" ++ left ++ " " ++ op.symbolText ++ " " ++ right ++ ")") :: done⟩

/-- The walk is on its way to a text: what it still has to do ends with this text and nothing else
on the stack, and there are no foreign leaves in it. -/
structure Heads (s : Rendering) (text : String) : Prop where
  ends : renderLoop s.todo s.done = some [text]
  pure : ∀ e, .visit e ∈ s.todo → e.Pure

variable {s s' : Rendering} {text : String}

/-- **A round keeps what the walk is on its way to.** -/
theorem Heads.round (h : s.Heads text) (hround : Round s s') : s'.Heads text := by
  obtain ⟨hends, hpure⟩ := h
  cases hround with
  | number n todo done =>
    rw [renderLoop] at hends
    exact ⟨hends, fun e he => hpure e (List.mem_cons_of_mem _ he)⟩
  | enter op l r todo done =>
    rw [renderLoop] at hends
    have hnode : (binary op l r).Pure := hpure _ List.mem_cons_self
    refine ⟨hends, fun e he => ?_⟩
    simp only [List.mem_cons, Pending.visit.injEq, reduceCtorEq, false_or] at he
    rcases he with rfl | rfl | he
    · exact hnode.1
    · exact hnode.2
    · exact hpure e (List.mem_cons_of_mem _ he)
  | join op left right todo done =>
    rw [renderLoop] at hends
    exact ⟨hends, fun e he => hpure e (List.mem_cons_of_mem _ he)⟩

/-- A walk that is on its way to a text has got there or goes on. -/
theorem Heads.eq_or_exists_round (h : s.Heads text) : s = ⟨[], [text]⟩ ∨ ∃ s', Round s s' := by
  obtain ⟨todo, done⟩ := s
  obtain ⟨hends, hpure⟩ := h
  dsimp only at hends hpure
  match todo, done with
  | [], done =>
    rw [renderLoop] at hends
    exact Or.inl (by rw [Option.some.inj hends])
  | .visit (number n) :: todo, done => exact Or.inr ⟨_, .number n todo done⟩
  | .visit (foreign kind) :: todo, done => exact (hpure _ List.mem_cons_self).elim
  | .visit (binary op l r) :: todo, done => exact Or.inr ⟨_, .enter op l r todo done⟩
  | .finish op :: todo, right :: left :: done => exact Or.inr ⟨_, .join op left right todo done⟩
  -- With fewer than two texts the walk would have no result.
  | .finish op :: todo, [] => simp [renderLoop] at hends
  | .finish op :: todo, [_] => simp [renderLoop] at hends

theorem load_lt_of_round (h : Round s s') : Pending.load s'.todo < Pending.load s.todo := by
  cases h with
  | number n todo done => simp [Pending.weight, size]
  | enter op l r todo done => exact Pending.load_open_lt op l r todo
  | join op left right todo done => simp [Pending.weight]

/-- No walk goes on for ever. -/
theorem exists_not_round (walk : Nat → Rendering) : ∃ i, ¬ Round (walk i) (walk (i + 1)) := by
  obtain ⟨i, hi⟩ := WellFounded.not_rel_apply_succ (r := (· < ·))
    fun i => Pending.load (walk i).todo
  exact ⟨i, fun hround => hi (load_lt_of_round hround)⟩

/-- The walk before its first round. -/
def start (e : Expr) : Rendering := ⟨[.visit e], []⟩

theorem heads_start {e : Expr} (hpure : e.Pure) : (start e).Heads e.parenthesized := by
  refine ⟨?_, ?_⟩
  · rw [start, renderLoop_visit, renderLoop]
  · intro e' he'
    simp only [start, List.mem_singleton, Pending.visit.injEq] at he'
    exact he' ▸ hpure

/-- What holds at the start holds after any number of rounds. -/
theorem heads_of_reachable {e : Expr} (hpure : e.Pure)
    (h : Relation.ReflTransGen Round (start e) s) : s.Heads e.parenthesized := by
  induction h with
  | refl => exact heads_start hpure
  | tail _ hround ih => exact ih.round hround

end Rendering

end Expr

/-! ## Where a number ends -/

namespace Text

/-- What stands before the digits of a number. -/
def sign (n : Int) : List Char := if n < 0 then ['-'] else []

theorem toList_decimal (n : Int) :
    (decimal n).toList = sign n ++ (Nat.repr n.natAbs).toList := by
  unfold decimal sign
  split <;> simp

theorem toList_repr_ne_nil (k : Nat) : (Nat.repr k).toList ≠ [] := by
  rw [Nat.toList_repr]
  exact Nat.toDigits_ne_nil

/-- **A number is told from what stands behind it**, unless that begins with a digit. -/
theorem decimal_append_inj {m n : Int} {s t : List Char} (hs : ∀ c ∈ s.head?, c.isDigit = false)
    (ht : ∀ c ∈ t.head?, c.isDigit = false)
    (h : (decimal m).toList ++ s = (decimal n).toList ++ t) : m = n ∧ s = t := by
  -- The sign ends where the first digit stands, and the digits end where the rest begins.
  have hsign : ∀ k : Int, ∀ c ∈ sign k, (c == '-') = true := by
    intro k c hc
    unfold sign at hc
    split at hc <;> simp_all
  have hdigit : ∀ (k : Nat) (u : List Char), ∀ c ∈ ((Nat.repr k).toList ++ u).head?,
      (c == '-') = false := by
    intro k u c hc
    rw [List.head?_append_of_ne_nil _ (toList_repr_ne_nil k)] at hc
    have hc' := isDigit_of_mem_repr (List.mem_of_mem_head? hc)
    rw [beq_eq_false_iff_ne]
    rintro rfl
    exact absurd hc' (by decide)
  rw [toList_decimal, toList_decimal, List.append_assoc, List.append_assoc] at h
  obtain ⟨hsigns, h⟩ := run_append_inj (hsign m) (hsign n) (hdigit _ s) (hdigit _ t) h
  obtain ⟨hdigits, hrest⟩ := run_append_inj (fun c => isDigit_of_mem_repr)
    (fun c => isDigit_of_mem_repr) hs ht h
  refine ⟨?_, hrest⟩
  have habs : m.natAbs = n.natAbs := by
    have hvalue := congrArg (fun digits => Nat.ofDigitChars 10 digits 0) hdigits
    simpa only [Nat.toList_repr, Nat.ofDigitChars_ten_toDigits] using hvalue
  have hnegative : m < 0 ↔ n < 0 := by
    unfold sign at hsigns
    by_cases hm : m < 0 <;> by_cases hn : n < 0 <;> simp [hm, hn] at hsigns ⊢
  omega

/-- A number does not begin with a parenthesis. -/
theorem decimal_append_ne_open (n : Int) (s t : List Char) :
    (decimal n).toList ++ s ≠ '(' :: t := by
  intro h
  have hne : (decimal n).toList ≠ [] := by
    rw [toList_decimal]
    exact List.append_ne_nil_of_right_ne_nil _ (toList_repr_ne_nil _)
  have hhead : '(' ∈ (decimal n).toList.head? := by
    rw [← List.head?_append_of_ne_nil _ hne, h, List.head?_cons]
    rfl
  rcases mem_decimal (List.mem_of_mem_head? hhead) with hminus | hdigit
  · exact absurd hminus (by decide)
  · exact absurd hdigit (by decide)

end Text

/-! ## Where a rendering ends -/

namespace Expr

theorem toList_parenthesized_binary (op : Operator) (l r : Expr) (s : List Char) :
    (binary op l r).parenthesized.toList ++ s
      = '(' :: (l.parenthesized.toList
          ++ ' ' :: op.symbol :: ' ' :: (r.parenthesized.toList ++ ')' :: s)) := by
  simp [parenthesized, Operator.symbolText]

/-- **A rendering is told from what stands behind it**, unless that begins with a digit. -/
theorem parenthesized_append_inj {a b : Expr} (ha : a.Pure) (hb : b.Pure) {s t : List Char}
    (hs : ∀ c ∈ s.head?, c.isDigit = false) (ht : ∀ c ∈ t.head?, c.isDigit = false)
    (h : a.parenthesized.toList ++ s = b.parenthesized.toList ++ t) : a = b ∧ s = t := by
  induction a generalizing b s t with
  | foreign kind => exact ha.elim
  | number m =>
    cases b with
    | foreign kind => exact hb.elim
    | number n =>
      obtain ⟨rfl, hrest⟩ := Text.decimal_append_inj hs ht h
      exact ⟨rfl, hrest⟩
    | binary op l r =>
      rw [toList_parenthesized_binary] at h
      exact absurd h (Text.decimal_append_ne_open m s _)
  | binary op l r ihl ihr =>
    cases b with
    | foreign kind => exact hb.elim
    | number n =>
      rw [toList_parenthesized_binary] at h
      exact absurd h.symm (Text.decimal_append_ne_open n t _)
    | binary op' l' r' =>
      have hblank : ∀ u : List Char, ∀ c ∈ (' ' :: u).head?, c.isDigit = false := by
        rintro u c ⟨⟩
        decide
      have hclose : ∀ u : List Char, ∀ c ∈ (')' :: u).head?, c.isDigit = false := by
        rintro u c ⟨⟩
        decide
      -- From the front: the parenthesis, the left operand up to the blank behind it, the operator
      -- between its blanks, and the right operand up to the closing parenthesis.
      rw [toList_parenthesized_binary, toList_parenthesized_binary, List.cons_inj_right] at h
      obtain ⟨hl, hoperator⟩ := ihl ha.1 hb.1 (hblank _) (hblank _) h
      simp only [List.cons.injEq, true_and] at hoperator
      obtain ⟨hsymbol, hright⟩ := hoperator
      obtain ⟨hr, hrest⟩ := ihr ha.2 hb.2 (hclose s) (hclose t) hright
      rw [Operator.symbol_injective hsymbol, hl, hr]
      exact ⟨rfl, List.tail_eq_of_cons_eq hrest⟩

/-- **The rendering is faithful.** On a tree without foreign leaves every moment of the walk is
either the last one, with nothing left to do and the recursive rendering as the only text on the
stack, or one from which it goes on; so no operator ever finds fewer than two texts. The walk does
not go on for ever, and its result is the recursive rendering. And different trees have different
renderings, however large their numbers are and whatever sign they have. -/
theorem rendered_faithful :
    (∀ e : Expr, e.Pure →
        (∀ s, Relation.ReflTransGen Rendering.Round (Rendering.start e) s →
            s = ⟨[], [e.parenthesized]⟩ ∨ ∃ s', Rendering.Round s s')
          ∧ (∀ walk : Nat → Rendering, walk 0 = Rendering.start e →
              ∃ i, ¬ Rendering.Round (walk i) (walk (i + 1)))
          ∧ renderLoop [.visit e] [] = some [e.parenthesized]
          ∧ e.rendered = e.parenthesized)
      ∧ ∀ a b : Expr, a.Pure → b.Pure → a.rendered = b.rendered → a = b := by
  constructor
  · intro e hpure
    refine ⟨?_, fun walk _ => Rendering.exists_not_round walk,
      (Rendering.heads_start hpure).ends, rendered_eq_parenthesized e⟩
    intro s hs
    exact (Rendering.heads_of_reachable hpure hs).eq_or_exists_round
  · intro a b ha hb h
    rw [rendered_eq_parenthesized, rendered_eq_parenthesized] at h
    exact (parenthesized_append_inj (s := []) (t := []) ha hb (by simp) (by simp) (by rw [h])).1

/-- `1 - -2` and `1 - 2` are renderings of two trees, and so of different ones. -/
theorem rendered_faithful_at_negative_operand :
    (binary .sub (number 1) (number (-2))).rendered = "(1 - -2)"
      ∧ (binary .sub (number 1) (number (-2))).rendered
          ≠ (binary .sub (number 1) (number 2)).rendered := by
  have hpure : (binary .sub (number 1) (number (-2))).Pure := by decide
  have hpure' : (binary .sub (number 1) (number 2)).Pure := by decide
  have hwalk := (rendered_faithful.1 _ hpure).2.2.2
  constructor
  · rw [hwalk]
    decide
  · intro h
    cases rendered_faithful.2 _ _ hpure hpure' h

end Expr

end Reckoner
