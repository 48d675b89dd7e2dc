import Reckoner.Proofs.Tokens

/-!
# The trees that texts are read to

The reader cannot build every tree. An operator of the higher level takes a single number on its
right and a product on its left, and one of the lower level takes a product on its right; numbers
are not negative and fit into a word. A tree of this shape (`Expr.ParserShaped`) that the depth
bound admits is read from some text, and no other tree is.

The text can be had from the tree. `Expr.rendered` puts a pair of parentheses around every operator,
and in a tree of this shape they say nothing that the levels and the leaning to the left do not say
already: without them (`withoutParentheses`) the rendering is read back to the same tree. It is
spelled with one blank around every operator, so it is a sentence of the grammar, and the derivation
is built along the tree. The left operand of an operator becomes everything before the last link of
a chain, which is why links are added at the end (`Chain.snoc`).

The tokens of a tree determine the rendering without parentheses, and so they determine the tree.
Hence two texts that are read are read to the same tree exactly when they have the same tokens.
-/

namespace Reckoner

open Grammar

/-- A text without its parentheses. -/
def withoutParentheses (text : String) : String :=
  String.ofList (text.toList.filter fun c => c ≠ '(' && c ≠ ')')

namespace Expr

def IsNumber : Expr → Prop
  | number _ => True
  | _ => False

/-- A number, or an operator of the higher level at the root. -/
def IsProduct : Expr → Prop
  | number _ => True
  | foreign _ => False
  | binary op _ _ => op.level = .higher

/-- A tree whose leaves are numbers that can be written down and whose operators have operands of
the kinds that the grammar gives them. -/
def ParserShaped : Expr → Prop
  | number n => 0 ≤ n ∧ n ≤ Word.greatest
  | foreign _ => False
  | binary op l r =>
    l.ParserShaped ∧ r.ParserShaped
      ∧ (op.level = .higher → l.IsProduct ∧ r.IsNumber)
      ∧ (op.level = .lower → r.IsProduct)

theorem pure_of_parserShaped {t : Expr} (ht : t.ParserShaped) : t.Pure := by
  induction t with
  | number n => exact trivial
  | foreign kind => exact ht
  | binary op l r ihl ihr => exact ⟨ihl ht.1, ihr ht.2.1⟩

/-- **Induction along a product.** It is a number, or an operator of the higher level between a
product and a number. -/
theorem product_induction {motive : (t : Expr) → t.ParserShaped → t.IsProduct → Prop}
    (number : ∀ n (h : (number n).ParserShaped), motive (.number n) h trivial)
    (binary : ∀ op l n (h : (binary op l (.number n)).ParserShaped) (hop : op.level = .higher)
      (hl : l.ParserShaped) (hproduct : l.IsProduct), motive l hl hproduct →
      motive (.binary op l (.number n)) h hop)
    (t : Expr) (hshape : t.ParserShaped) (hproduct : t.IsProduct) :
    motive t hshape hproduct := by
  induction t with
  | number n => exact number n hshape
  | foreign kind => exact hshape.elim
  | binary op l r ihl _ =>
    obtain ⟨hleft, hright⟩ := hshape.2.2.1 hproduct
    cases r with
    | number n => exact binary op l n hshape hproduct hshape.1 hleft (ihl hshape.1 hleft)
    | foreign kind => exact hright.elim
    | binary op' l' r' => exact hright.elim

/-- **Induction along a sum.** It is a product, or an operator of the lower level between a sum and
a product. -/
theorem sum_induction {motive : (t : Expr) → t.ParserShaped → Prop}
    (product : ∀ t (h : t.ParserShaped), t.IsProduct → motive t h)
    (binary : ∀ op l r (h : (binary op l r).ParserShaped), op.level = .lower →
      ∀ hl : l.ParserShaped, r.ParserShaped → r.IsProduct → motive l hl → motive (.binary op l r) h)
    (t : Expr) (hshape : t.ParserShaped) : motive t hshape := by
  induction t with
  | number n => exact product _ hshape trivial
  | foreign kind => exact hshape.elim
  | binary op l r ihl _ =>
    cases hlevel : op.level with
    | higher => exact product _ hshape hlevel
    | lower =>
      exact binary op l r hshape hlevel hshape.1 hshape.2.1 (hshape.2.2.2 hlevel) (ihl hshape.1)

/-! ## Rendering -/

/-- What the walk makes of a subtree at the head of the list: its text goes onto the stack. -/
theorem renderLoop_visit (e : Expr) (todo : List Pending) (done : List String) :
    renderLoop (.visit e :: todo) done = renderLoop todo (e.parenthesized :: done) := by
  induction e generalizing todo done with
  | number n => rw [renderLoop, parenthesized]
  | foreign kind => rw [renderLoop, parenthesized]
  | binary op l r ihl ihr =>
    -- The texts of the operands are on top of the stack when the operator is taken up.
    rw [renderLoop, ihl, ihr, renderLoop, parenthesized]

/-- **The walk renders the tree.** -/
theorem rendered_eq_parenthesized (e : Expr) : e.rendered = e.parenthesized := by
  rw [rendered, renderLoop_visit, renderLoop]
  rfl

/-- The tree written out without parentheses. -/
def bareChars : Expr → List Char
  | number n => (Text.decimal n).toList
  | foreign kind => kind.toList
  | binary op l r => l.bareChars ++ ' ' :: op.symbol :: ' ' :: r.bareChars

end Expr

theorem Text.isDigit_of_mem_repr {n : Nat} {c : Char} (hc : c ∈ (Nat.repr n).toList) :
    c.isDigit = true := by
  rw [Nat.toList_repr] at hc
  exact Nat.isDigit_of_mem_toDigits (by decide) (by decide) hc

theorem Text.mem_decimal {n : Int} {c : Char} (hc : c ∈ (Text.decimal n).toList) :
    c = '-' ∨ c.isDigit = true := by
  unfold Text.decimal at hc
  split at hc
  · rw [String.toList_append] at hc
    rcases List.mem_append.mp hc with hminus | hdigit
    · exact Or.inl (List.mem_singleton.mp hminus)
    · exact Or.inr (Text.isDigit_of_mem_repr hdigit)
  · exact Or.inr (Text.isDigit_of_mem_repr hc)

namespace Expr

/-- Only the operators have put parentheses into a rendering. -/
theorem filter_parenthesized {e : Expr} (hpure : e.Pure) :
    e.parenthesized.toList.filter (fun c => c ≠ '(' && c ≠ ')') = e.bareChars := by
  induction e with
  | number n =>
    rw [parenthesized, bareChars, List.filter_eq_self]
    intro c hc
    rcases Text.mem_decimal hc with rfl | hdigit
    · decide
    · have hopen : c ≠ '(' := by
        rintro rfl
        exact absurd hdigit (by decide)
      have hclose : c ≠ ')' := by
        rintro rfl
        exact absurd hdigit (by decide)
      simp [hopen, hclose]
  | foreign kind => exact hpure.elim
  | binary op l r ihl ihr =>
    have hsymbol : [op.symbol].filter (fun c => c ≠ '(' && c ≠ ')') = [op.symbol] := by
      cases op <;> decide
    simp only [parenthesized, String.toList_append, List.filter_append, ihl hpure.1, ihr hpure.2,
      Operator.symbolText, String.toList_singleton, hsymbol, bareChars]
    simp

theorem toList_withoutParentheses_rendered {e : Expr} (hpure : e.Pure) :
    (withoutParentheses e.rendered).toList = e.bareChars := by
  rw [withoutParentheses, String.toList_ofList, rendered_eq_parenthesized,
    filter_parenthesized hpure]

end Expr

/-- How a token is spelled in a rendering. -/
def Grammar.Token.spelling : Token → List Char
  | .literal n => (Text.decimal n).toList
  | .operator op => [op.symbol]

/-- A rendering without parentheses spells the tokens of the tree with a blank in front of each. The
first of these blanks is not there. -/
theorem Expr.cons_bareChars {e : Expr} (hpure : e.Pure) :
    ' ' :: e.bareChars = e.tokens.flatMap fun token => ' ' :: token.spelling := by
  induction e with
  | number n => simp [bareChars, tokens, Token.spelling]
  | foreign kind => exact hpure.elim
  | binary op l r ihl ihr =>
    rw [bareChars, tokens, List.flatMap_append, List.flatMap_cons, ← ihl hpure.1, ← ihr hpure.2]
    rfl

/-! ## What is read has the shape -/

namespace Grammar

variable {α : Type} {level : Level}

/-- What holds of the first operand and survives every link holds of the chain. -/
theorem attach_induction {P : Expr → Prop} {tree : α → Expr} {left : Expr}
    {links : List (Link level α)} (hleft : P left)
    (hlink : ∀ k ∈ links, ∀ l, P l → P (.binary k.op l (tree k.operand))) :
    P (attach tree left links) := by
  induction links generalizing left with
  | nil => exact hleft
  | cons k links ih =>
    rw [attach_cons]
    refine ih (hlink k List.mem_cons_self left hleft) fun k' hk' => ?_
    exact hlink k' (List.mem_cons_of_mem _ hk')

theorem Numeral.parserShaped_tree {m : Numeral} (hm : (m.value : Int) ≤ Word.greatest) :
    m.tree.ParserShaped :=
  ⟨Int.natCast_nonneg _, hm⟩

theorem Term.parserShaped_tree {c : Term}
    (hc : ∀ m ∈ c.operands, (m.value : Int) ≤ Word.greatest) :
    (c.tree Numeral.tree).ParserShaped ∧ (c.tree Numeral.tree).IsProduct := by
  have hfirst := Numeral.parserShaped_tree (hc c.first List.mem_cons_self)
  refine attach_induction (P := fun t => t.ParserShaped ∧ t.IsProduct) ⟨hfirst, trivial⟩ ?_
  rintro k hk l ⟨hl, hproduct⟩
  have hoperand := Numeral.parserShaped_tree
    (hc k.operand (List.mem_cons_of_mem _ (List.mem_map_of_mem hk)))
  refine ⟨⟨hl, hoperand, fun _ => ⟨hproduct, trivial⟩, fun hlower => ?_⟩, k.op_level⟩
  rw [k.op_level] at hlower
  cases hlower

theorem Sentence.parserShaped_tree {d : Sentence}
    (hd : ∀ m ∈ d.numerals, (m.value : Int) ≤ Word.greatest) : d.tree.ParserShaped := by
  have hterm : ∀ c ∈ d.expression.operands,
      (c.tree Numeral.tree).ParserShaped ∧ (c.tree Numeral.tree).IsProduct := fun c hc =>
    Term.parserShaped_tree fun m hm => hd m (List.mem_flatMap.mpr ⟨c, hc, hm⟩)
  refine attach_induction (hterm _ List.mem_cons_self).1 ?_
  intro k hk l hl
  obtain ⟨hoperand, hproduct⟩ :=
    hterm k.operand (List.mem_cons_of_mem _ (List.mem_map_of_mem hk))
  refine ⟨hl, hoperand, fun hhigher => ?_, fun _ => hproduct⟩
  rw [k.op_level] at hhigher
  cases hhigher

/-! ## What has the shape is read -/

/-- A chain with one more link at its end. -/
def Chain.snoc (c : Chain level α) (k : Link level α) : Chain level α := ⟨c.first, c.links ++ [k]⟩

theorem Chain.text_snoc (text : α → List Char) (c : Chain level α) (k : Link level α) :
    (c.snoc k).text text = c.text text ++ k.text text := by
  simp [Chain.text, Chain.snoc]

theorem Chain.tree_snoc (tree : α → Expr) (c : Chain level α) (k : Link level α) :
    (c.snoc k).tree tree = .binary k.op (c.tree tree) (tree k.operand) := by
  simp [Chain.tree, Chain.snoc, attach]

theorem Chain.operands_snoc (c : Chain level α) (k : Link level α) :
    (c.snoc k).operands = c.operands ++ [k.operand] := by
  simp [Chain.operands, Chain.snoc]

def Blanks.none : Blanks := ⟨[], by simp⟩

def Blanks.one : Blanks := ⟨[' '], by simp [blankChars]⟩

/-- The number `n` in the digits of its decimal spelling. -/
def Numeral.ofNat (blanks : Blanks) (n : Nat) : Numeral where
  blanks := blanks
  digits := Nat.toDigits 10 n
  digits_ne_nil := Nat.toDigits_ne_nil
  all_digit _ hc := mem_digitChars_iff.mpr (Nat.isDigit_of_mem_toDigits (by decide) (by decide) hc)

theorem Numeral.value_ofNat (blanks : Blanks) (n : Nat) : (Numeral.ofNat blanks n).value = n :=
  Nat.ofDigitChars_ten_toDigits

/-- A number that is not negative is the numeral of its decimal spelling. -/
theorem exists_numeral {n : Int} (hn : 0 ≤ n) (blanks : Blanks) :
    ∃ m : Numeral, m.text = blanks.chars ++ (Expr.number n).bareChars ∧ m.tree = .number n
      ∧ (m.value : Int) = n := by
  have hvalue : ((Numeral.ofNat blanks n.toNat).value : Int) = n := by
    rw [Numeral.value_ofNat, Int.toNat_of_nonneg hn]
  refine ⟨Numeral.ofNat blanks n.toNat, ?_, congrArg Expr.number hvalue, hvalue⟩
  have habs : n.natAbs = n.toNat := by omega
  rw [Numeral.text, Expr.bareChars, Text.decimal, if_neg (Int.not_lt.mpr hn), Nat.toList_repr,
    habs]
  rfl

/-- A product of the shape is a term, with any blanks in front. -/
theorem exists_term {t : Expr} (hshape : t.ParserShaped) (hproduct : t.IsProduct)
    (blanks : Blanks) :
    ∃ c : Term, c.text Numeral.text = blanks.chars ++ t.bareChars ∧ c.tree Numeral.tree = t
      ∧ ∀ m ∈ c.operands, (m.value : Int) ≤ Word.greatest := by
  induction t with
  | number n =>
    obtain ⟨m, htext, htree, hvalue⟩ := exists_numeral hshape.1 blanks
    refine ⟨⟨m, []⟩, ?_, htree, ?_⟩
    · rw [Chain.text, List.flatMap_nil, List.append_nil, htext]
    · intro m' hm'
      rw [List.mem_singleton.mp hm', hvalue]
      exact hshape.2
  | foreign kind => exact hshape.elim
  | binary op l r ihl _ =>
    obtain ⟨hl, hr, hhigher, _⟩ := hshape
    obtain ⟨hlproduct, hnumber⟩ := hhigher hproduct
    cases r with
    | foreign kind => exact hr.elim
    | binary op' l' r' => exact hnumber.elim
    | number n =>
      -- The right operand becomes the last link of the left operand's chain.
      obtain ⟨c, hctext, hctree, hcrange⟩ := ihl hl hlproduct
      obtain ⟨m, htext, htree, hvalue⟩ := exists_numeral hr.1 .one
      refine ⟨c.snoc ⟨.one, op, hproduct, m⟩, ?_, ?_, ?_⟩
      · rw [Chain.text_snoc, hctext, Link.text, htext, Expr.bareChars, List.append_assoc]
        rfl
      · rw [Chain.tree_snoc, hctree, htree]
      · intro m' hm'
        rw [Chain.operands_snoc] at hm'
        rcases List.mem_append.mp hm' with hm' | hm'
        · exact hcrange m' hm'
        · rw [List.mem_singleton.mp hm', hvalue]
          exact hr.2

/-- A text that is an expression with this tree, all of whose numbers are in range. -/
def DerivesExpression (s : List Char) (t : Expr) : Prop :=
  ∃ e : Expression, e.text (Chain.text Numeral.text) = s ∧ e.tree (Chain.tree Numeral.tree) = t
    ∧ ∀ c ∈ e.operands, ∀ m ∈ c.operands, (m.value : Int) ≤ Word.greatest

/-- A product is an expression of one term. -/
theorem derivesExpression_of_product {t : Expr} (hshape : t.ParserShaped)
    (hproduct : t.IsProduct) : DerivesExpression t.bareChars t := by
  obtain ⟨c, htext, htree, hrange⟩ := exists_term hshape hproduct .none
  refine ⟨⟨c, []⟩, ?_, htree, ?_⟩
  · rw [Chain.text, List.flatMap_nil, List.append_nil, htext]
    rfl
  · intro c' hc'
    rw [List.mem_singleton.mp hc']
    exact hrange

/-- A tree of the shape is an expression. -/
theorem derivesExpression_of_shape {t : Expr} (hshape : t.ParserShaped) :
    DerivesExpression t.bareChars t := by
  induction t with
  | number n => exact derivesExpression_of_product hshape trivial
  | foreign kind => exact hshape.elim
  | binary op l r ihl _ =>
    cases hlevel : op.level with
    | higher => exact derivesExpression_of_product hshape hlevel
    | lower =>
      obtain ⟨hl, hr, _, hlower⟩ := hshape
      obtain ⟨e, hetext, hetree, herange⟩ := ihl hl
      obtain ⟨c, htext, htree, hrange⟩ := exists_term hr (hlower hlevel) .one
      refine ⟨e.snoc ⟨.one, op, hlevel, c⟩, ?_, ?_, ?_⟩
      · rw [Chain.text_snoc, hetext, Link.text, htext, Expr.bareChars]
        rfl
      · rw [Chain.tree_snoc, hetree, htree]
      · intro c' hc'
        rw [Chain.operands_snoc] at hc'
        rcases List.mem_append.mp hc' with hc' | hc'
        · exact herange c' hc'
        · rw [List.mem_singleton.mp hc']
          exact hrange

end Grammar

/-! ## The image of the reader -/

namespace Parser

/-- A tree that the bound admits: a number alone, or a tree with at most as many levels. -/
def Admits (bound : Int) (t : Expr) : Prop :=
  (∃ n, t = .number n) ∨ (t.measuredHeight : Int) ≤ bound

/-- **Without its parentheses the rendering is read back**, if the tree has the shape and the bound
admits it. -/
theorem parse_withoutParentheses {bound : Int} {t : Expr} (hshape : t.ParserShaped)
    (hadmits : Admits bound t) : parse bound (withoutParentheses t.rendered) = .ok t := by
  obtain ⟨e, htext, htree, hrange⟩ := derivesExpression_of_shape hshape
  refine parse_eq_ok_iff.mpr ⟨⟨e, .none⟩, ?_, ⟨?_, ?_⟩, htree⟩
  · rw [Expr.toList_withoutParentheses_rendered (Expr.pure_of_parserShaped hshape),
      Sentence.text, htext]
    exact List.append_nil _
  · intro m hm
    obtain ⟨c, hc, hm⟩ := List.mem_flatMap.mp hm
    exact hrange c hc m hm
  · rw [Sentence.tree, htree]
    exact hadmits

theorem parserShaped_of_parse {bound : Int} {text : String} {t : Expr}
    (h : parse bound text = .ok t) : t.ParserShaped ∧ Admits bound t := by
  obtain ⟨d, _, ⟨hrange, hadmits⟩, rfl⟩ := parse_eq_ok_iff.mp h
  exact ⟨d.parserShaped_tree hrange, hadmits⟩

/-- Trees of the shape with the same tokens are equal: their renderings are one text, and a bound
that admits both reads it to either of them. -/
theorem eq_of_tokens_eq {t t' : Expr} (hshape : t.ParserShaped) (hshape' : t'.ParserShaped)
    (htokens : t.tokens = t'.tokens) : t = t' := by
  have hpure := Expr.pure_of_parserShaped hshape
  have hpure' := Expr.pure_of_parserShaped hshape'
  have hcons : ' ' :: t.bareChars = ' ' :: t'.bareChars := by
    rw [Expr.cons_bareChars hpure, Expr.cons_bareChars hpure', htokens]
  have htext : withoutParentheses t.rendered = withoutParentheses t'.rendered := by
    rw [← String.toList_inj, Expr.toList_withoutParentheses_rendered hpure,
      Expr.toList_withoutParentheses_rendered hpure']
    exact List.tail_eq_of_cons_eq hcons
  have hle : (t.measuredHeight : Int) ≤ max t.measuredHeight t'.measuredHeight := by omega
  have hle' : (t'.measuredHeight : Int) ≤ max t.measuredHeight t'.measuredHeight := by omega
  have hread := parse_withoutParentheses hshape (Or.inr hle)
  rw [htext, parse_withoutParentheses hshape' (Or.inr hle')] at hread
  exact (Except.ok.inj hread).symm

/-- **The image of the reader, and the way back.** Some text is read to a tree under a bound exactly
when the tree has the shape and the bound admits it, and then the rendering of the tree without
parentheses is such a text. The rendering has the tokens of every text that is read to the tree, so
two texts that are read, under whatever bounds, are read to one tree exactly when they have the same
tokens. -/
theorem parse_image_round_trip (bound : Int) (t : Expr) :
    ((∃ text, parse bound text = .ok t)
        ↔ t.ParserShaped ∧ ((∃ n, t = .number n) ∨ (t.measuredHeight : Int) ≤ bound))
      ∧ ((∃ text, parse bound text = .ok t) →
          parse bound (withoutParentheses t.rendered) = .ok t)
      ∧ (∀ text, parse bound text = .ok t →
          ∃ tokens, Token.scan text.toList = some tokens
            ∧ Token.scan (withoutParentheses t.rendered).toList = some tokens)
      ∧ ∀ (text : String) (bound' : Int) (text' : String) (t' : Expr),
          parse bound text = .ok t → parse bound' text' = .ok t' →
          (t = t' ↔ Token.scan text.toList = Token.scan text'.toList) := by
  have hback : ∀ {text}, parse bound text = .ok t →
      parse bound (withoutParentheses t.rendered) = .ok t := fun h =>
    parse_withoutParentheses (parserShaped_of_parse h).1 (parserShaped_of_parse h).2
  refine ⟨⟨?_, ?_⟩, ?_, ?_, ?_⟩
  · rintro ⟨text, h⟩
    exact parserShaped_of_parse h
  · rintro ⟨hshape, hadmits⟩
    exact ⟨_, parse_withoutParentheses hshape hadmits⟩
  · rintro ⟨text, h⟩
    exact hback h
  · intro text h
    exact ⟨t.tokens, scan_of_parse h, scan_of_parse (hback h)⟩
  · intro text bound' text' t' h h'
    rw [scan_of_parse h, scan_of_parse h']
    constructor
    · rintro rfl
      rfl
    · intro htokens
      exact eq_of_tokens_eq (parserShaped_of_parse h).1 (parserShaped_of_parse h').1
        (Option.some.inj htokens)

end Parser

end Reckoner
