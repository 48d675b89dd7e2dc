import Mathlib.Tactic.IntervalCases
import Reckoner.Parser

/-!
# The grammar of expressions

The grammar that texts are read by, as a type of derivations:

    sentence   = expression blank*
    expression = term (blank* ('+' | '-') term)*
    term       = number (blank* ('*' | '/') number)*
    number     = blank* digit+

A derivation keeps every character, blanks included, so it has a text; and it has a tree, in which
an operator of the higher level is an operand of one of the lower level and never the other way
round, and in which each level leans to the left. The two inner rules have one shape, `Chain`, used
at two levels with two kinds of operand. Nothing here reads anything: how the reader relates to the
grammar is the matter of `Reckoner.Proofs.ParserExactness`.

The main fact is that **the grammar is unambiguous**: two derivations with one text are equal
(`Sentence.text_injective`). It is proved for phrases with something behind them. What stands behind
a phrase has to be unable to continue it (`Ends`), and then phrase and rest can both be told from
the text (`UniquelyRead`). Numbers are uniquely read because their digits end where no digit
follows, and chains of uniquely read operands are uniquely read because an operator of the chain
cannot be taken for the end of an operand.
-/

namespace Reckoner

/-! ## Levels of operators -/

/-- How tightly an operator binds. -/
inductive Level where
  | lower
  | higher
  deriving DecidableEq, Repr

namespace Operator

def level : Operator → Level
  | .add => .lower
  | .sub => .lower
  | .mul => .higher
  | .div => .higher

theorem symbol_injective {op op' : Operator} (h : op.symbol = op'.symbol) : op = op' := by
  have hsome := congrArg ofChar? h
  rw [ofChar?_symbol, ofChar?_symbol] at hsome
  exact Option.some.inj hsome

theorem isDigit_symbol (op : Operator) : op.symbol.isDigit = false := by
  cases op <;> decide

theorem isBlank_symbol (op : Operator) : Parser.isBlank op.symbol = false := by
  cases op <;> decide

end Operator

def Level.operator? : Level → Char → Option Operator
  | .lower => Operator.additive?
  | .higher => Operator.multiplicative?

/-- A character stands for the operator whose symbol it is, at the level of that operator. -/
theorem Level.operator?_eq_some_iff {level : Level} {c : Char} {op : Operator} :
    level.operator? c = some op ↔ c = op.symbol ∧ op.level = level := by
  constructor
  · intro h
    cases level with
    | lower =>
      simp only [operator?, Operator.additive?] at h
      split at h <;> cases h <;> exact ⟨rfl, rfl⟩
    | higher =>
      simp only [operator?, Operator.multiplicative?] at h
      split at h <;> cases h <;> exact ⟨rfl, rfl⟩
  · rintro ⟨rfl, rfl⟩
    cases op <;> rfl

namespace Grammar

/-! ## Derivations -/

/-- The characters that may stand between the parts of a sentence. -/
def blankChars : List Char := [' ', '\t', '\r', '\n']

/-- The characters that numbers are written with. -/
def digitChars : List Char := ['0', '1', '2', '3', '4', '5', '6', '7', '8', '9']

@[ext]
structure Blanks where
  chars : List Char
  all_blank : ∀ c ∈ chars, c ∈ blankChars

/-- A number: blanks, and then at least one digit. -/
@[ext]
structure Numeral where
  blanks : Blanks
  digits : List Char
  digits_ne_nil : digits ≠ []
  all_digit : ∀ c ∈ digits, c ∈ digitChars

/-- An operator of a level with blanks in front of it and its right operand behind it. -/
@[ext]
structure Link (level : Level) (α : Type) where
  blanks : Blanks
  op : Operator
  op_level : op.level = level
  operand : α

@[ext]
structure Chain (level : Level) (α : Type) where
  first : α
  links : List (Link level α)

abbrev Term := Chain .higher Numeral

abbrev Expression := Chain .lower Term

@[ext]
structure Sentence where
  expression : Expression
  blanks : Blanks

/-! ### The text of a derivation -/

variable {α : Type} {level : Level}

def Numeral.text (m : Numeral) : List Char := m.blanks.chars ++ m.digits

def Link.text (text : α → List Char) (k : Link level α) : List Char :=
  k.blanks.chars ++ k.op.symbol :: text k.operand

def Chain.text (text : α → List Char) (c : Chain level α) : List Char :=
  text c.first ++ c.links.flatMap (Link.text text)

def Sentence.text (d : Sentence) : List Char :=
  d.expression.text (Chain.text Numeral.text) ++ d.blanks.chars

/-! ### The tree of a derivation -/

/-- The number that the digits denote in the decimal system. Zeros in front do not count. -/
def Numeral.value (m : Numeral) : Nat := Nat.ofDigitChars 10 m.digits 0

def Numeral.tree (m : Numeral) : Expr := .number m.value

/-- The tree `left` with further links behind it, each of which takes everything before it as its
left operand. -/
def attach (tree : α → Expr) (left : Expr) (links : List (Link level α)) : Expr :=
  links.foldl (fun left k => .binary k.op left (tree k.operand)) left

def Chain.tree (tree : α → Expr) (c : Chain level α) : Expr := attach tree (tree c.first) c.links

def Sentence.tree (d : Sentence) : Expr := d.expression.tree (Chain.tree Numeral.tree)

/-! ### The numbers of a derivation -/

def Chain.operands (c : Chain level α) : List α := c.first :: c.links.map Link.operand

/-- The numbers of a sentence from left to right. -/
def Sentence.numerals (d : Sentence) : List Numeral := d.expression.operands.flatMap Chain.operands

/-! ## Characters and blanks as the reader sees them -/

theorem mem_blankChars_iff {c : Char} : c ∈ blankChars ↔ Parser.isBlank c = true := by
  simp [blankChars, Parser.isBlank, or_assoc]

theorem mem_digitChars_iff {c : Char} : c ∈ digitChars ↔ c.isDigit = true := by
  constructor
  · exact List.all_eq_true.mp (by decide : digitChars.all Char.isDigit = true) c
  · intro h
    obtain ⟨hlow, hhigh⟩ := Char.isDigit_iff_toNat.mp h
    rw [← Char.ofNat_toNat c]
    have hlow' : 48 ≤ c.toNat := hlow
    have hhigh' : c.toNat ≤ 57 := hhigh
    -- Ten codes are left, one for each digit.
    interval_cases c.toNat <;> decide

theorem Blanks.isBlank_of_mem (b : Blanks) {c : Char} (hc : c ∈ b.chars) :
    Parser.isBlank c = true :=
  mem_blankChars_iff.mp (b.all_blank c hc)

theorem Numeral.isDigit_of_mem (m : Numeral) {c : Char} (hc : c ∈ m.digits) :
    c.isDigit = true :=
  mem_digitChars_iff.mp (m.all_digit c hc)

/-- No character is both a blank and a digit. -/
theorem isBlank_of_isDigit {c : Char} (hc : c.isDigit = true) : Parser.isBlank c = false := by
  have hall : digitChars.all (fun c => !Parser.isBlank c) = true := by decide
  simpa using List.all_eq_true.mp hall c (mem_digitChars_iff.mpr hc)

theorem isDigit_of_isBlank {c : Char} (hc : Parser.isBlank c = true) : c.isDigit = false := by
  have hall : blankChars.all (fun c => !c.isDigit) = true := by decide
  simpa using List.all_eq_true.mp hall c (mem_blankChars_iff.mpr hc)

theorem skipBlanks_blanks_append (b : Blanks) (s : List Char) :
    Parser.skipBlanks (b.chars ++ s) = Parser.skipBlanks s :=
  List.dropWhile_append_of_pos fun _ hc => b.isBlank_of_mem hc

/-- The blanks of a number end where its digits begin. -/
theorem skipBlanks_numeral_append (m : Numeral) (s : List Char) :
    Parser.skipBlanks (m.text ++ s) = m.digits ++ s := by
  obtain ⟨digit, digits, hm⟩ := List.exists_cons_of_ne_nil m.digits_ne_nil
  have hdigit : digit.isDigit = true := m.isDigit_of_mem (by rw [hm]; exact List.mem_cons_self)
  rw [Numeral.text, List.append_assoc, skipBlanks_blanks_append, hm]
  refine List.dropWhile_cons_of_neg ?_
  rw [isBlank_of_isDigit hdigit]
  exact Bool.false_ne_true

/-- A run of digits does not go on behind its end. -/
theorem takeWhile_digits_append {digits rest : List Char} (hdigits : ∀ c ∈ digits, c.isDigit = true)
    (hrest : ∀ c ∈ rest.head?, c.isDigit = false) :
    (digits ++ rest).takeWhile Char.isDigit = digits
      ∧ (digits ++ rest).dropWhile Char.isDigit = rest := by
  rw [List.takeWhile_append_of_pos hdigits, List.dropWhile_append_of_pos hdigits]
  cases rest with
  | nil => exact ⟨List.append_nil _, rfl⟩
  | cons c rest =>
    have hc : ¬ c.isDigit = true := by rw [hrest c rfl]; exact Bool.false_ne_true
    rw [List.takeWhile_cons_of_neg hc, List.dropWhile_cons_of_neg hc]
    exact ⟨List.append_nil _, rfl⟩

theorem skipBlanks_symbol_cons (op : Operator) (s : List Char) :
    Parser.skipBlanks (op.symbol :: s) = op.symbol :: s :=
  List.dropWhile_cons_of_neg (by rw [op.isBlank_symbol]; exact Bool.false_ne_true)

theorem skipBlanks_link_append (text : α → List Char) (k : Link level α) (s : List Char) :
    Parser.skipBlanks (k.text text ++ s) = k.op.symbol :: (text k.operand ++ s) := by
  rw [Link.text, List.append_assoc, List.cons_append, skipBlanks_blanks_append,
    skipBlanks_symbol_cons]

/-! ## What can stand behind a phrase -/

/-- A text that cannot continue a phrase made of numbers and of operators of the given levels: it
does not start with a digit, and behind its blanks there is no operator of those levels. -/
structure Ends (levels : List Level) (s : List Char) : Prop where
  no_digit : ∀ c ∈ s.head?, c.isDigit = false
  no_operator : ∀ op : Operator, op.level ∈ levels →
    (Parser.skipBlanks s).head? ≠ some op.symbol

theorem Ends.of_cons {levels : List Level} {s : List Char} (h : Ends (level :: levels) s) :
    Ends levels s :=
  ⟨h.no_digit, fun op hop => h.no_operator op (List.mem_cons_of_mem _ hop)⟩

/-- Blanks up to the end of the text continue nothing. -/
theorem ends_blanks (levels : List Level) (b : Blanks) : Ends levels b.chars := by
  constructor
  · intro c hc
    exact isDigit_of_isBlank (b.isBlank_of_mem (List.mem_of_mem_head? hc))
  · intro op _
    have hnil := skipBlanks_blanks_append b []
    rw [List.append_nil] at hnil
    rw [hnil]
    exact Option.some_ne_none _ ∘ Eq.symm

/-- A link of one level does not continue a phrase of others. -/
theorem ends_link_append {levels : List Level} (hlevel : level ∉ levels) (text : α → List Char)
    (k : Link level α) (s : List Char) : Ends levels (k.text text ++ s) := by
  constructor
  · intro c hc
    rw [Link.text, List.append_assoc] at hc
    rcases hb : k.blanks.chars with _ | ⟨b, bs⟩
    · rw [hb] at hc
      cases hc
      exact k.op.isDigit_symbol
    · rw [hb] at hc
      cases hc
      exact isDigit_of_isBlank (k.blanks.isBlank_of_mem (by rw [hb]; exact List.mem_cons_self))
  · intro op hop
    rw [skipBlanks_link_append, List.head?_cons]
    intro hsym
    have heq : k.op = op := Operator.symbol_injective (Option.some.inj hsym)
    exact hlevel (k.op_level ▸ heq ▸ hop)

/-- Behind an operand of a chain stands another link or the end of the chain, and neither continues
the operand. -/
theorem ends_links_append {levels : List Level} (hlevel : level ∉ levels) (text : α → List Char)
    (links : List (Link level α)) {s : List Char} (hs : Ends (level :: levels) s) :
    Ends levels (links.flatMap (Link.text text) ++ s) := by
  cases links with
  | nil => exact hs.of_cons
  | cons k links =>
    rw [List.flatMap_cons, List.append_assoc]
    exact ends_link_append hlevel text k _

/-! ## Unique reading -/

/-- Phrases with this text can be told from what stands behind them, if that does not continue a
phrase of the given levels. -/
def UniquelyRead (levels : List Level) (text : α → List Char) : Prop :=
  ∀ {a a' : α} {s s' : List Char}, Ends levels s → Ends levels s' →
    text a ++ s = text a' ++ s' → a = a' ∧ s = s'

/-- A run of characters of one class ends where a character of no such class follows. -/
theorem run_append_inj {class? : Char → Bool} {u u' s s' : List Char}
    (hu : ∀ c ∈ u, class? c = true) (hu' : ∀ c ∈ u', class? c = true)
    (hs : ∀ c ∈ s.head?, class? c = false) (hs' : ∀ c ∈ s'.head?, class? c = false)
    (h : u ++ s = u' ++ s') : u = u' ∧ s = s' := by
  have hnone : ∀ {t : List Char}, (∀ c ∈ t.head?, class? c = false) →
      t.takeWhile class? = [] := by
    intro t ht
    cases t with
    | nil => rfl
    | cons c t => exact List.takeWhile_cons_of_neg (by rw [ht c rfl]; exact Bool.false_ne_true)
  have hrun := congrArg (List.takeWhile class?) h
  rw [List.takeWhile_append_of_pos hu, List.takeWhile_append_of_pos hu', hnone hs, hnone hs',
    List.append_nil, List.append_nil] at hrun
  subst hrun
  exact ⟨rfl, List.append_cancel_left h⟩

theorem blanks_append_inj {b b' : Blanks} {s s' : List Char}
    (hs : ∀ c ∈ s.head?, Parser.isBlank c = false)
    (hs' : ∀ c ∈ s'.head?, Parser.isBlank c = false)
    (h : b.chars ++ s = b'.chars ++ s') : b = b' ∧ s = s' := by
  obtain ⟨hb, hrest⟩ := run_append_inj (fun _ => b.isBlank_of_mem) (fun _ => b'.isBlank_of_mem)
    hs hs' h
  exact ⟨Blanks.ext hb, hrest⟩

/-- Two lists of links with one text are equal, and so is what stands behind them. -/
theorem links_append_inj {levels : List Level} {text : α → List Char}
    (hread : UniquelyRead levels text) (hlevel : level ∉ levels)
    {links links' : List (Link level α)} {s s' : List Char}
    (hs : Ends (level :: levels) s) (hs' : Ends (level :: levels) s')
    (h : links.flatMap (Link.text text) ++ s = links'.flatMap (Link.text text) ++ s') :
    links = links' ∧ s = s' := by
  -- A text cannot both start with a link and be an end of the chain.
  have hclash : ∀ (k : Link level α) (t : List Char),
      ¬ Ends (level :: levels) (k.text text ++ t) := by
    intro k t hends
    refine hends.no_operator k.op (by rw [k.op_level]; exact List.mem_cons_self) ?_
    rw [skipBlanks_link_append, List.head?_cons]
  induction links generalizing links' with
  | nil =>
    cases links' with
    | nil => exact ⟨rfl, h⟩
    | cons k' links' =>
      rw [List.flatMap_nil, List.nil_append, List.flatMap_cons, List.append_assoc] at h
      exact absurd (h ▸ hs) (hclash k' _)
  | cons k links ih =>
    cases links' with
    | nil =>
      rw [List.flatMap_nil, List.nil_append, List.flatMap_cons, List.append_assoc] at h
      exact absurd (h ▸ hs') (hclash k _)
    | cons k' links' =>
      have hsymbol : ∀ (op : Operator) (t : List Char), ∀ c ∈ (op.symbol :: t).head?,
          Parser.isBlank c = false := by
        rintro op t c ⟨⟩
        exact op.isBlank_symbol
      -- From the front of the text: the blanks end at a symbol, the symbols are equal, the operands
      -- are uniquely read, and the rest is the induction hypothesis.
      rw [List.flatMap_cons, List.flatMap_cons, Link.text, Link.text] at h
      simp only [List.append_assoc, List.cons_append] at h
      obtain ⟨hblanks, h⟩ := blanks_append_inj (hsymbol k.op _) (hsymbol k'.op _) h
      obtain ⟨hsym, h⟩ := List.cons.inj h
      obtain ⟨hoperand, h⟩ := hread (ends_links_append hlevel text links hs)
        (ends_links_append hlevel text links' hs') h
      obtain ⟨hlinks, hrest⟩ := ih h
      refine ⟨?_, hrest⟩
      rw [Link.ext hblanks (Operator.symbol_injective hsym) hoperand, hlinks]

/-- **Chains of uniquely read operands are uniquely read.** -/
theorem UniquelyRead.chain {levels : List Level} {text : α → List Char}
    (hread : UniquelyRead levels text) (hlevel : level ∉ levels) :
    UniquelyRead (level :: levels) (fun c : Chain level α => c.text text) := by
  intro c c' s s' hs hs' h
  dsimp only at h
  rw [Chain.text, Chain.text, List.append_assoc, List.append_assoc] at h
  obtain ⟨hfirst, h⟩ := hread (ends_links_append hlevel text c.links hs)
    (ends_links_append hlevel text c'.links hs') h
  obtain ⟨hlinks, hrest⟩ := links_append_inj hread hlevel hs hs' h
  exact ⟨Chain.ext hfirst hlinks, hrest⟩

end Grammar

end Reckoner
