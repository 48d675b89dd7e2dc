import Reckoner.Proofs.Compilation
import Reckoner.Proofs.NestingDepth

/-!
# Compiled texts and the shunting yard

The classical way from tokens to a program builds no tree. Literals are put out as they come. An
operator is kept waiting until its right operand has been put out, and it is known to be complete
when an operator comes that binds no tighter, or when the text ends. Operators of one level are put
out from left to right, because the one that waits leaves first (`Yard.step`).

For a text that is read the result is the program that its tree compiles to. The tree does not
occur in the yard, so what is proved is how far the yard has come with it: the listing of a tree
that has just gone through is put out except for its last operators, and these wait on top of the
siding in the order in which they will leave. For a product they are all of the higher level
(`run_product`), and so an operator of the higher level sends off exactly them and leaves those
below alone. An operator of the lower level sends off everything (`step_lower`), and that completes
the listing of all that stands to its left (`closed_run`).
-/

namespace Reckoner

open Grammar

/-! ## The yard -/

/-- The rank by which operators give way to each other. -/
def Level.precedence : Level → Nat
  | .lower => 1
  | .higher => 2

namespace Grammar

/-- What has been put out, and the operators that wait, the latest first. -/
structure Yard where
  output : List Instruction
  siding : List Operator
  deriving DecidableEq, Repr

namespace Yard

def empty : Yard := ⟨[], []⟩

/-- Whether an operator that waits leaves before `op` joins the siding. It does so if it binds at
least as tightly, and among operators of one level that makes the left one the first. -/
def leavesBefore (op waiting : Operator) : Bool :=
  op.level.precedence ≤ waiting.level.precedence

/-- One token. -/
def step (y : Yard) : Token → Yard
  | .literal n => ⟨y.output ++ [.push n], y.siding⟩
  | .operator op =>
    ⟨y.output ++ (y.siding.takeWhile (leavesBefore op)).map .apply,
      op :: y.siding.dropWhile (leavesBefore op)⟩

/-- A sequence of tokens, in one pass. -/
def run (y : Yard) (tokens : List Token) : Yard := tokens.foldl step y

/-- The output once everything that waits has left. -/
def closed (y : Yard) : List Instruction := y.output ++ y.siding.map .apply

end Yard

/-- The program of a sequence of tokens by way of the yard. -/
def shuntingYard (tokens : List Token) : List Instruction := (Yard.empty.run tokens).closed

/-! ## What a tree leaves behind in the yard -/

namespace Yard

theorem run_append (y : Yard) (tokens more : List Token) :
    y.run (tokens ++ more) = (y.run tokens).run more :=
  List.foldl_append

theorem run_cons (y : Yard) (token : Token) (tokens : List Token) :
    y.run (token :: tokens) = (y.step token).run tokens := rfl

/-- An operator of the lower level sends off everything that waits. -/
theorem step_lower {op : Operator} (hop : op.level = .lower) (y : Yard) :
    y.step (.operator op) = ⟨y.closed, [op]⟩ := by
  have hall : ∀ waiting ∈ y.siding, leavesBefore op waiting = true := by
    intro waiting _
    rw [leavesBefore, hop, decide_eq_true_iff]
    cases waiting.level <;> decide
  rw [step, List.takeWhile_eq_self_iff.mpr hall, List.dropWhile_eq_nil_iff.mpr hall]
  rfl

/-- An operator of the higher level sends off those of its level that wait on top. -/
theorem step_higher {op : Operator} (hop : op.level = .higher) (output : List Instruction)
    {waiting siding : List Operator} (hwaiting : ∀ w ∈ waiting, w.level = .higher)
    (hsiding : ∀ w ∈ siding.head?, w.level = .lower) :
    step ⟨output, waiting ++ siding⟩ (.operator op)
      = ⟨output ++ waiting.map .apply, op :: siding⟩ := by
  have hleave : ∀ w ∈ waiting, leavesBefore op w = true := by
    intro w hw
    rw [leavesBefore, hop, hwaiting w hw]
    rfl
  have hstay : siding.takeWhile (leavesBefore op) = []
      ∧ siding.dropWhile (leavesBefore op) = siding := by
    cases siding with
    | nil => exact ⟨rfl, rfl⟩
    | cons w siding =>
      have hw : ¬ leavesBefore op w = true := by
        rw [leavesBefore, hop, hsiding w rfl]
        decide
      exact ⟨List.takeWhile_cons_of_neg hw, List.dropWhile_cons_of_neg hw⟩
  rw [step]
  dsimp only
  rw [List.takeWhile_append_of_pos hleave, List.dropWhile_append_of_pos hleave, hstay.1, hstay.2,
    List.append_nil]

/-- **A product leaves operators of the higher level waiting**, on top of what waited before. What
is missing in the output from the listing of the product is these. -/
theorem run_product {t : Expr} (hshape : t.ParserShaped) (hproduct : t.IsProduct)
    (output : List Instruction) {siding : List Operator}
    (hsiding : ∀ w ∈ siding.head?, w.level = .lower) :
    ∃ output' waiting, run ⟨output, siding⟩ t.tokens = ⟨output', waiting ++ siding⟩
      ∧ (∀ w ∈ waiting, w.level = .higher)
      ∧ output' ++ waiting.map .apply = output ++ t.postorder := by
  induction t, hshape, hproduct using Expr.product_induction with
  | number n => exact ⟨output ++ [.push n], [], rfl, by simp, List.append_nil _⟩
  | binary op l n _ hop _ _ ih =>
    obtain ⟨output', waiting, hrun, hwaiting, houtput⟩ := ih
    -- The operator completes the left operand and is the only one to wait behind the right one.
    refine ⟨output ++ l.postorder ++ [.push n], [op], ?_, ?_, ?_⟩
    · rw [Expr.tokens, run_append, hrun, run_cons, step_higher hop output' hwaiting hsiding,
        houtput]
      rfl
    · intro w hw
      rw [List.mem_singleton.mp hw]
      exact hop
    · simp only [Expr.postorder, List.map_cons, List.map_nil, List.append_assoc]

/-- **What goes through an empty siding is listed**, once everything that waits has left. -/
theorem closed_run {t : Expr} (hshape : t.ParserShaped) (output : List Instruction) :
    (run ⟨output, []⟩ t.tokens).closed = output ++ t.postorder := by
  induction t, hshape using Expr.sum_induction with
  | product t hshape hproduct =>
    have hnone : ∀ w ∈ ([] : List Operator).head?, w.level = .lower := by simp
    obtain ⟨output', waiting, hrun, _, houtput⟩ := run_product hshape hproduct output hnone
    rw [hrun, closed, List.append_nil, houtput]
  | binary op l r _ hlevel _ hr hproduct ih =>
    -- The operator sends off what the left operand has left behind, and waits alone below what
    -- the right operand, a product, leaves behind.
    have hsiding : ∀ w ∈ [op].head?, w.level = .lower := by
      rintro w ⟨⟩
      exact hlevel
    obtain ⟨output', waiting, hrun, _, houtput⟩ :=
      run_product hr hproduct (output ++ l.postorder) hsiding
    rw [Expr.tokens, run_append, run_cons, step_lower hlevel, ih, hrun, closed, List.map_append,
      ← List.append_assoc, houtput, Expr.postorder]
    simp only [List.map_cons, List.map_nil, List.append_assoc]

end Yard

theorem shuntingYard_tokens {t : Expr} (hshape : t.ParserShaped) :
    shuntingYard t.tokens = t.postorder := by
  rw [shuntingYard, Yard.empty, Yard.closed_run hshape, List.nil_append]

-- The right operand of the sum is a product, so the sum waits for it, while the sum itself leaves
-- as soon as the difference comes.
example :
    shuntingYard [.literal 1, .operator .add, .literal 2, .operator .mul, .literal 3,
        .operator .sub, .literal 4]
      = [.push 1, .push 2, .push 3, .apply .mul, .apply .add, .push 4, .apply .sub] := by
  decide

end Grammar

/-! ## Counting literals and operators -/

/-- The number that an instruction pushes, if it pushes one. -/
def Instruction.pushed? : Instruction → Option Int
  | .push n => some n
  | .apply _ => none

/-- The value of a literal, if the token is one. -/
def Grammar.Token.literal? : Token → Option Int
  | .literal n => some n
  | .operator _ => none

namespace Expr

/-- A listing keeps the order of the literals. -/
theorem pushed_postorder (e : Expr) :
    e.postorder.filterMap Instruction.pushed? = e.tokens.filterMap Grammar.Token.literal? := by
  induction e with
  | number n => rfl
  | foreign kind => rfl
  | binary op l r ihl ihr =>
    simp only [postorder, tokens, List.filterMap_append, List.filterMap_cons, List.filterMap_nil,
      ihl, ihr, Instruction.pushed?, Grammar.Token.literal?, List.append_nil]

theorem count_apply_postorder (e : Expr) (op : Operator) :
    e.postorder.count (.apply op) = e.tokens.count (.operator op) := by
  induction e with
  | number n => rfl
  | foreign kind => rfl
  | binary op' l r ihl ihr =>
    simp only [postorder, tokens, List.count_append, List.count_cons, List.count_nil, ihl, ihr,
      beq_iff_eq, Instruction.apply.injEq, Grammar.Token.operator.injEq]
    omega

theorem length_postorder {e : Expr} (hpure : e.Pure) :
    e.postorder.length = 2 * e.operators + 1 := by
  induction e with
  | number n => rfl
  | foreign kind => exact hpure.elim
  | binary op l r ihl ihr =>
    simp only [postorder, operators, List.length_append, List.length_singleton, ihl hpure.1,
      ihr hpure.2]
    omega

end Expr

theorem Operator.eq_symbol_of_ofChar? {c : Char} {op : Operator} (h : ofChar? c = some op) :
    c = op.symbol := by
  rw [ofChar?] at h
  rcases hlower : additive? c with _ | op'
  · rw [hlower] at h
    exact (Level.operator?_eq_some_iff.mp (show Level.higher.operator? c = some op from h)).1
  · rw [hlower] at h
    cases h
    exact (Level.operator?_eq_some_iff.mp (show Level.lower.operator? c = some op from hlower)).1

/-- An operator is scanned as often as its symbol stands in the text. -/
theorem Grammar.count_operator_of_scan {s : List Char} {tokens : List Token}
    (h : Token.scan s = some tokens) (op : Operator) :
    tokens.count (.operator op) = s.count op.symbol := by
  have hblank : op.symbol ∉ blankChars := by cases op <;> decide
  have hdigit : op.symbol ∉ digitChars := by cases op <;> decide
  fun_induction Token.scan s generalizing tokens with
  | case1 =>
    cases h
    rfl
  | case2 c s hc ih =>
    have hne : c ≠ op.symbol := fun heq => hblank (heq ▸ hc)
    rw [ih h, List.count_cons_of_ne hne]
  | case3 c s _ hc ih =>
    obtain ⟨rest, hrest, rfl⟩ := Option.map_eq_some_iff.mp h
    have hne : c ≠ op.symbol := fun heq => hdigit (heq ▸ hc)
    -- The symbol does not stand among the digits that the literal takes.
    have hrun : (s.takeWhile (· ∈ digitChars)).count op.symbol = 0 := by
      refine List.count_eq_zero.mpr fun hmem => hdigit ?_
      simpa using List.mem_takeWhile_imp hmem
    have hsplit := congrArg (List.count op.symbol)
      (List.takeWhile_append_dropWhile (p := (· ∈ digitChars)) (l := s))
    rw [List.count_append, hrun, Nat.zero_add] at hsplit
    rw [List.count_cons_of_ne (by simp), ih hrest, hsplit, List.count_cons_of_ne hne]
  | case4 => cases h
  | case5 c s _ _ op' hop ih =>
    obtain ⟨rest, hrest, rfl⟩ := Option.map_eq_some_iff.mp h
    rw [Operator.eq_symbol_of_ofChar? hop]
    by_cases heq : op' = op
    · rw [heq, List.count_cons_self, List.count_cons_self, ih hrest]
    · have hne : op'.symbol ≠ op.symbol := fun hsym => heq (Operator.symbol_injective hsym)
      rw [List.count_cons_of_ne (by simpa using heq), List.count_cons_of_ne hne, ih hrest]

/-- The link of an operator, at its own level. -/
def Grammar.Link.of {α : Type} (blanks : Blanks) (op : Operator) (operand : α) : Link op.level α :=
  ⟨blanks, op, rfl, operand⟩

namespace Parser

/-- **Compiling a text that is read is the shunting yard.** The program of its tree is what the yard
makes of its tokens. It pushes the literals of the text in their order, it applies each operator as
often as the operator's symbol stands in the text, and with `k` symbols of operators in the text it
has `2 * k + 1` instructions. -/
theorem compile_parse_eq_shuntingYard {bound : Int} {text : String} {t : Expr}
    (h : parse bound text = .ok t) :
    ∃ tokens p, Token.scan text.toList = some tokens ∧ Compiler.compile t = .ok p
      ∧ p.instructions = shuntingYard tokens
      ∧ p.instructions.filterMap Instruction.pushed? = tokens.filterMap Token.literal?
      ∧ (∀ op, p.instructions.count (.apply op) = text.toList.count op.symbol)
      ∧ p.size = 2 * operatorCount text.toList + 1 := by
  have hscan := scan_of_parse h
  obtain ⟨hshape, _⟩ := parserShaped_of_parse h
  have hpure := Expr.pure_of_parserShaped hshape
  refine ⟨t.tokens, ⟨t.postorder⟩, hscan, Compiler.compile_of_pure hpure,
    (shuntingYard_tokens hshape).symm, t.pushed_postorder, fun op => ?_, ?_⟩
  · rw [t.count_apply_postorder, count_operator_of_scan hscan]
  · obtain ⟨d, hd, _, rfl⟩ := parse_eq_ok_iff.mp h
    rw [← hd, d.operatorCount_text]
    exact Expr.length_postorder hpure

/-- A difference of a difference, in which a product and a quotient stand in the middle. -/
def differences : Sentence where
  expression :=
    { first := ⟨.ofNat .none 8, []⟩
      links := [
        .of .one .sub ⟨.ofNat .one 3,
          [.of .none .mul (.ofNat .none 2), .of .none .div (.ofNat .none 0)]⟩,
        .of .one .sub ⟨.ofNat .one 1, []⟩] }
  blanks := .none

theorem parse_differences : parse 4 "8 - 3*2/0 - 1" = .ok differences.tree := by
  have hheight : differences.tree.height = 4 := by decide
  refine parse_eq_ok_iff.mpr ⟨differences, by decide, ⟨by decide, Or.inr ?_⟩, rfl⟩
  rw [Expr.measuredHeight_eq_height, hheight]
  decide

theorem compile_parse_eq_shuntingYard_at_differences :
    ∃ tokens p, Token.scan "8 - 3*2/0 - 1".toList = some tokens
      ∧ Compiler.compile differences.tree = .ok p
      ∧ p.instructions = shuntingYard tokens
      ∧ p.instructions.filterMap Instruction.pushed? = tokens.filterMap Token.literal?
      ∧ (∀ op, p.instructions.count (.apply op) = "8 - 3*2/0 - 1".toList.count op.symbol)
      ∧ p.size = 2 * operatorCount "8 - 3*2/0 - 1".toList + 1 :=
  compile_parse_eq_shuntingYard parse_differences

end Parser

end Reckoner
