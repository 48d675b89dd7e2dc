import Reckoner.Proofs.ParserExactness

/-!
# The tokens of a text

A text is a sequence of tokens with blanks among them: literals, of which only the value matters,
and operators. `Token.scan` takes a text apart without knowing anything of terms, expressions or
trees, and a tree has tokens too, those of its literals and operators from left to right
(`Expr.tokens`).

The two are the same for a text that is read to a tree (`scan_of_parse`). The grammar stands between
them. The scanner finds the tokens of a derivation, because a literal of a phrase ends where the
phrase goes on with an operator, a blank, or nothing; so the statement about a phrase is made for
every text behind it that does not start with a digit (`ScannedAs`), and it carries over from
operands to chains. The tree of a derivation has the same tokens, because a link adds its operator
and its operand on the right of everything before it.
-/

namespace Reckoner

open Grammar

namespace Grammar

/-- A literal, known by its value, or an operator. -/
inductive Token where
  | literal (value : Int)
  | operator (op : Operator)
  deriving DecidableEq, Repr

/-- The tokens of a text from left to right. Blanks are passed over, and a literal takes every digit
there is. A text with any other character in it has no tokens. -/
def Token.scan : List Char → Option (List Token)
  | [] => some []
  | c :: s =>
    if c ∈ blankChars then scan s
    else if c ∈ digitChars then
      (scan (s.dropWhile (· ∈ digitChars))).map
        (.literal (Text.ofDigits (c :: s.takeWhile (· ∈ digitChars))) :: ·)
    else
      match Operator.ofChar? c with
      | none => none
      | some op => (scan s).map (.operator op :: ·)
termination_by s => s.length
decreasing_by
  · exact Nat.lt_succ_self _
  · exact Nat.lt_succ_of_le (List.dropWhile_sublist _).length_le
  · exact Nat.lt_succ_self _

end Grammar

/-- The tokens of a tree from left to right. A foreign leaf is no token. -/
def Expr.tokens : Expr → List Grammar.Token
  | .number n => [.literal n]
  | .foreign _ => []
  | .binary op l r => l.tokens ++ .operator op :: r.tokens

namespace Grammar

variable {α : Type} {level : Level}

/-! ## The tokens of a derivation -/

def Numeral.tokens (m : Numeral) : List Token := [.literal m.value]

def Link.tokens (tokens : α → List Token) (k : Link level α) : List Token :=
  .operator k.op :: tokens k.operand

def Chain.tokens (tokens : α → List Token) (c : Chain level α) : List Token :=
  tokens c.first ++ c.links.flatMap (Link.tokens tokens)

def Sentence.tokens (d : Sentence) : List Token :=
  d.expression.tokens (Chain.tokens Numeral.tokens)

/-! ## Scanning a derivation -/

theorem scan_blanks_append (b : Blanks) (s : List Char) :
    Token.scan (b.chars ++ s) = Token.scan s := by
  obtain ⟨chars, hall⟩ := b
  dsimp only
  induction chars with
  | nil => rfl
  | cons c chars ih =>
    rw [List.cons_append, Token.scan, if_pos (hall c List.mem_cons_self)]
    exact ih fun c hc => hall c (List.mem_cons_of_mem _ hc)

theorem scan_symbol_cons (op : Operator) (s : List Char) :
    Token.scan (op.symbol :: s) = (Token.scan s).map (.operator op :: ·) := by
  have hblank : op.symbol ∉ blankChars := by cases op <;> decide
  have hdigit : op.symbol ∉ digitChars := by cases op <;> decide
  rw [Token.scan, if_neg hblank, if_neg hdigit, Operator.ofChar?_symbol]

/-- The scanner finds these tokens in a phrase with this text, whatever stands behind it, unless
that starts with a digit. -/
def ScannedAs (text : α → List Char) (tokens : α → List Token) : Prop :=
  ∀ (a : α) {rest : List Char}, (∀ c ∈ rest.head?, c.isDigit = false) →
    Token.scan (text a ++ rest) = (Token.scan rest).map (tokens a ++ ·)

theorem scannedAs_numeral : ScannedAs Numeral.text Numeral.tokens := by
  intro m rest hrest
  obtain ⟨digit, digits, hm⟩ := List.exists_cons_of_ne_nil m.digits_ne_nil
  have hdigit : ∀ c ∈ digit :: digits, c ∈ digitChars := by
    rw [← hm]
    exact m.all_digit
  have hblank : digit ∉ blankChars := by
    rw [mem_blankChars_iff,
      isBlank_of_isDigit (mem_digitChars_iff.mp (hdigit _ List.mem_cons_self))]
    exact Bool.false_ne_true
  -- The run of digits goes on to the end of the numeral and stops there.
  have hrun : ∀ c ∈ digits, decide (c ∈ digitChars) = true := fun c hc =>
    decide_eq_true (hdigit c (List.mem_cons_of_mem _ hc))
  have hstop : rest.takeWhile (· ∈ digitChars) = [] ∧ rest.dropWhile (· ∈ digitChars) = rest := by
    cases rest with
    | nil => exact ⟨rfl, rfl⟩
    | cons c rest =>
      have hc : ¬ decide (c ∈ digitChars) = true := by
        rw [decide_eq_true_iff, mem_digitChars_iff, hrest c rfl]
        exact Bool.false_ne_true
      exact ⟨List.takeWhile_cons_of_neg hc, List.dropWhile_cons_of_neg hc⟩
  rw [Numeral.text, List.append_assoc, scan_blanks_append, hm, List.cons_append, Token.scan,
    if_neg hblank, if_pos (hdigit _ List.mem_cons_self), List.takeWhile_append_of_pos hrun,
    List.dropWhile_append_of_pos hrun, hstop.1, hstop.2, List.append_nil, Numeral.tokens,
    Numeral.value, hm]
  rfl

/-- Behind an operand stands another link or the end of the chain, and neither starts with a digit,
if what follows the chain does not. -/
theorem no_digit_links_append (text : α → List Char) (links : List (Link level α))
    {rest : List Char} (hrest : ∀ c ∈ rest.head?, c.isDigit = false) :
    ∀ c ∈ (links.flatMap (Link.text text) ++ rest).head?, c.isDigit = false := by
  cases links with
  | nil => exact hrest
  | cons k links =>
    rw [List.flatMap_cons, List.append_assoc]
    have hends : Ends [] (k.text text ++ (links.flatMap (Link.text text) ++ rest)) :=
      ends_link_append List.not_mem_nil text k _
    exact hends.no_digit

theorem scan_links_append {text : α → List Char} {tokens : α → List Token}
    (hscan : ScannedAs text tokens) (links : List (Link level α)) {rest : List Char}
    (hrest : ∀ c ∈ rest.head?, c.isDigit = false) :
    Token.scan (links.flatMap (Link.text text) ++ rest)
      = (Token.scan rest).map (links.flatMap (Link.tokens tokens) ++ ·) := by
  induction links with
  | nil => simp
  | cons k links ih =>
    rw [List.flatMap_cons, List.append_assoc, Link.text, List.append_assoc, List.cons_append,
      scan_blanks_append, scan_symbol_cons,
      hscan k.operand (no_digit_links_append text links hrest), ih, Option.map_map,
      Option.map_map, List.flatMap_cons]
    congr 1
    funext ts
    simp only [Function.comp_apply, Link.tokens, List.cons_append, List.append_assoc]

theorem ScannedAs.chain {text : α → List Char} {tokens : α → List Token}
    (hscan : ScannedAs text tokens) :
    ScannedAs (fun c : Chain level α => c.text text) (fun c => c.tokens tokens) := by
  intro c rest hrest
  dsimp only
  rw [Chain.text, List.append_assoc, hscan c.first (no_digit_links_append text c.links hrest),
    scan_links_append hscan c.links hrest, Option.map_map]
  congr 1
  funext ts
  simp only [Function.comp_apply, Chain.tokens, List.append_assoc]

/-- **The scanner finds the tokens of a derivation.** -/
theorem Sentence.scan_text (d : Sentence) : Token.scan d.text = some d.tokens := by
  have hterm : ScannedAs (fun c : Term => c.text Numeral.text)
      (fun c => c.tokens Numeral.tokens) := scannedAs_numeral.chain
  have hexpression : ScannedAs (fun e : Expression => e.text (Chain.text Numeral.text))
      (fun e => e.tokens (Chain.tokens Numeral.tokens)) := hterm.chain
  have hblanks : Token.scan d.blanks.chars = some [] := by
    have h := scan_blanks_append d.blanks []
    rwa [List.append_nil, Token.scan] at h
  rw [Sentence.text, hexpression d.expression (ends_blanks [] d.blanks).no_digit, hblanks,
    Option.map_some, List.append_nil]
  rfl

/-! ## The tokens of a tree -/

/-- Links add their tokens on the right. -/
theorem tokens_attach {tree : α → Expr} {tokens : α → List Token}
    (htree : ∀ a, (tree a).tokens = tokens a) (left : Expr) (links : List (Link level α)) :
    (attach tree left links).tokens = left.tokens ++ links.flatMap (Link.tokens tokens) := by
  induction links generalizing left with
  | nil => simp [attach]
  | cons k links ih =>
    rw [attach_cons, ih, Expr.tokens, htree, List.flatMap_cons, Link.tokens, List.append_assoc]

theorem Chain.tokens_tree {tree : α → Expr} {tokens : α → List Token}
    (htree : ∀ a, (tree a).tokens = tokens a) (c : Chain level α) :
    (c.tree tree).tokens = c.tokens tokens := by
  rw [Chain.tree, tokens_attach htree, htree, Chain.tokens]

theorem Sentence.tokens_tree (d : Sentence) : d.tree.tokens = d.tokens :=
  Chain.tokens_tree (Chain.tokens_tree fun _ => rfl) d.expression

end Grammar

/-- **A text that is read has the tokens of its tree.** -/
theorem Parser.scan_of_parse {bound : Int} {text : String} {t : Expr}
    (h : parse bound text = .ok t) : Grammar.Token.scan text.toList = some t.tokens := by
  obtain ⟨d, hd, _, rfl⟩ := parse_eq_ok_iff.mp h
  rw [← hd, d.scan_text, d.tokens_tree]

end Reckoner
