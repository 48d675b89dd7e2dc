import Mathlib.Data.List.DropRight
import Reckoner.Proofs.Evaluation
import Reckoner.Proofs.Literal
import Reckoner.Proofs.Reader

/-!
# The reader reads exactly the grammar

A reader is *exact* for a kind of phrase (`Reader.Exact`) if what it reads is such a phrase and if
it reads every such phrase whole, with the phrase's tree and height. In both directions something
may stand behind the phrase, provided that it does not continue it; blanks behind the phrase may
have been read or not, and the two sides agree on the rest up to those.

Exactness of a reader of operands carries over to the reader of their chains (`Reader.Exact.chain`).
The reader of numbers is exact, so the reader of terms is, and the reader of expressions; what is
left is the end of the text (`parseChars_eq_ok_iff`).

The bound is part of the notion. While a chain is read, the bound is compared with the height of
every tree on the way, and the heights only grow: it is enough that the last one keeps the bound,
and that is all the statement about a whole sentence mentions. A chain without links is not compared
with the bound at all, which is why a number alone is read under every bound.
-/

namespace Reckoner

open Grammar

/-! ## The height of a chain -/

namespace Grammar

variable {α : Type} {level : Level}

theorem attach_cons (tree : α → Expr) (left : Expr) (k : Link level α)
    (links : List (Link level α)) :
    attach tree left (k :: links) = attach tree (.binary k.op left (tree k.operand)) links := rfl

/-- Links only add to the height. -/
theorem height_le_attach (tree : α → Expr) (left : Expr) (links : List (Link level α)) :
    left.height ≤ (attach tree left links).height := by
  induction links generalizing left with
  | nil => exact Nat.le_refl _
  | cons k links ih =>
    rw [attach_cons]
    refine Nat.le_trans ?_ (ih _)
    rw [Expr.height]
    omega

theorem height_lt_attach_cons (tree : α → Expr) (left : Expr) (k : Link level α)
    (links : List (Link level α)) :
    max left.height (tree k.operand).height < (attach tree left (k :: links)).height := by
  have hle := height_le_attach tree (.binary k.op left (tree k.operand)) links
  rw [Expr.height] at hle
  rw [attach_cons]
  omega

end Grammar

namespace Parser

/-- A tree that the bound admits: it has no operator, or no more levels of them than the bound. -/
def Fits (bound : Int) (t : Expr) : Prop := t.height = 0 ∨ (t.height : Int) ≤ bound

/-! ## Exact readers -/

/-- A reader that reads phrases with the given text and tree, those among them that are admitted and
fit, and nothing else. -/
structure Reader.Exact {α : Type} (reader : Reader) (levels : List Level) (text : α → List Char)
    (tree : α → Expr) (admitted : α → Prop) (bound : Int) : Prop where
  sound : ∀ {s : List Char} {p : Parsed}, reader.read s = .ok p →
    ∃ a rest, s = text a ++ rest ∧ Ends levels rest ∧ skipBlanks rest = skipBlanks p.rest
      ∧ p.tree = tree a ∧ p.height = (tree a).height ∧ admitted a ∧ Fits bound (tree a)
  complete : ∀ {a : α} {rest : List Char}, Ends levels rest → admitted a → Fits bound (tree a) →
    ∃ p, reader.read (text a ++ rest) = .ok p ∧ p.tree = tree a ∧ p.height = (tree a).height
      ∧ skipBlanks p.rest = skipBlanks rest

/-! ### Numbers -/

def leadingBlanks (s : List Char) : Blanks where
  chars := s.takeWhile isBlank
  all_blank _ hc := mem_blankChars_iff.mpr (List.mem_takeWhile_imp hc)

theorem leadingBlanks_append_skipBlanks (s : List Char) :
    (leadingBlanks s).chars ++ skipBlanks s = s :=
  List.takeWhile_append_dropWhile

theorem skipBlanks_skipBlanks (s : List Char) : skipBlanks (skipBlanks s) = skipBlanks s :=
  List.dropWhile_idempotent _ _

theorem ends_dropWhile_isDigit (s : List Char) : Ends [] (s.dropWhile Char.isDigit) := by
  constructor
  · intro c hc
    have hhead := List.head?_dropWhile_not Char.isDigit s
    rw [Option.mem_def.mp hc] at hhead
    simpa using hhead
  · intro op hop
    exact absurd hop List.not_mem_nil

/-- A number that was read is a numeral within the range, with the rest behind it. -/
theorem number_sound {s rest : List Char} {n : Nat} (h : number s = .ok (n, rest)) :
    ∃ m : Numeral, s = m.text ++ rest ∧ Ends [] rest ∧ m.value = n
      ∧ (m.value : Int) ≤ Word.greatest := by
  have hall : ∀ c ∈ (skipBlanks s).takeWhile Char.isDigit, c.isDigit = true :=
    fun c hc => List.mem_takeWhile_imp hc
  have hlit := literal?_eq hall
  unfold number at h
  split at h
  · cases h
  · next digit digits hrun =>
    have hsplit : (leadingBlanks s).chars
        ++ (digit :: digits ++ (skipBlanks s).dropWhile Char.isDigit) = s := by
      rw [← hrun, List.takeWhile_append_dropWhile, leadingBlanks_append_skipBlanks]
    rw [hrun] at hall hlit
    by_cases hbig : Word.greatest < Text.ofDigits (digit :: digits)
    · rw [hlit, if_pos hbig] at h
      cases h
    · rw [hlit, if_neg hbig] at h
      cases h
      refine ⟨⟨leadingBlanks s, digit :: digits, List.cons_ne_nil _ _,
        fun c hc => mem_digitChars_iff.mpr (hall c hc)⟩, ?_, ends_dropWhile_isDigit _, rfl,
        Int.not_lt.mp hbig⟩
      rw [Numeral.text, List.append_assoc, hsplit]

/-- A numeral in front of anything but a digit is taken whole, and its digits decide what becomes of
it. -/
theorem number_text_append (m : Numeral) {rest : List Char}
    (hrest : ∀ c ∈ rest.head?, c.isDigit = false) :
    number (m.text ++ rest)
      = if Word.greatest < m.value then .error ⟨.literalOutOfRange, m.digits ++ rest⟩
        else .ok (m.value, rest) := by
  have hdigits : ∀ c ∈ m.digits, c.isDigit = true := fun c hc => m.isDigit_of_mem hc
  obtain ⟨htake, hdrop⟩ := takeWhile_digits_append hdigits hrest
  obtain ⟨digit, digits, hm⟩ := List.exists_cons_of_ne_nil m.digits_ne_nil
  rw [number, skipBlanks_numeral_append, htake, hdrop, hm]
  dsimp only
  rw [← hm, literal?_eq hdigits]
  by_cases hbig : Word.greatest < m.value
  · rw [if_pos hbig, if_pos (show Word.greatest < Text.ofDigits m.digits from hbig)]
  · rw [if_neg hbig, if_neg (show ¬ Word.greatest < Text.ofDigits m.digits from hbig)]
    rfl

/-- A numeral within the range is read whole. -/
theorem number_complete (m : Numeral) {rest : List Char} (hrest : Ends [] rest)
    (hrange : (m.value : Int) ≤ Word.greatest) :
    number (m.text ++ rest) = .ok (m.value, rest) := by
  rw [number_text_append m hrest.no_digit, if_neg (Int.not_lt.mpr hrange)]

/-- **The reader of numbers is exact** under every bound. -/
theorem exact_numeral (bound : Int) :
    Reader.numeral.Exact [] Numeral.text Numeral.tree
      (fun m => (m.value : Int) ≤ Word.greatest) bound where
  sound := by
    intro s p h
    rw [Reader.numeral] at h
    dsimp only at h
    split at h
    · cases h
    · next n rest hn =>
      cases h
      obtain ⟨m, hs, hends, hvalue, hrange⟩ := number_sound hn
      refine ⟨m, rest, hs, hends, rfl, ?_, rfl, hrange, Or.inl rfl⟩
      rw [Numeral.tree, hvalue]
  complete := by
    intro m rest hends hrange _
    refine ⟨⟨m.tree, 0, rest⟩, ?_, rfl, rfl, rfl⟩
    rw [Reader.numeral]
    dsimp only
    rw [number_complete m hends hrange]
    rfl

/-! ### Chains -/

section Chain

variable {α : Type} {level : Level} {levels : List Level} {text : α → List Char}
  {tree : α → Expr} {admitted : α → Prop} {bound : Int} {operand : Reader}

/-- What the loop has read is a list of links. The text may be given with the blanks at its front
already read (`s`) or not (`s'`), since the reader of an operand may have gone over them. -/
theorem chainLoop_sound (hexact : operand.Exact levels text tree admitted bound)
    {left : Expr} {height : Nat} {s : List Char} {p : Parsed} (hheight : height = left.height)
    (h : chainLoop level operand bound left height s = .ok p)
    {s' : List Char} (hends : Ends levels s') (hs' : skipBlanks s' = skipBlanks s) :
    ∃ (links : List (Link level α)) (rest : List Char),
      s' = links.flatMap (Link.text text) ++ rest ∧ Ends (level :: levels) rest
        ∧ skipBlanks rest = skipBlanks p.rest
        ∧ p.tree = attach tree left links ∧ p.height = (attach tree left links).height
        ∧ (∀ k ∈ links, admitted k.operand)
        ∧ (links = [] ∨ ((attach tree left links).height : Int) ≤ bound) := by
  fun_induction chainLoop level operand bound left height s generalizing s' with
  | case1 left height s hs =>
    cases h
    rw [hs] at hs'
    refine ⟨[], s', rfl, ⟨hends.no_digit, ?_⟩, hs', rfl, hheight,
      fun _ hk => absurd hk List.not_mem_nil, Or.inl rfl⟩
    intro op _ hsym
    rw [hs'] at hsym
    cases hsym
  | case2 left height s c after hs hop =>
    cases h
    rw [hs] at hs'
    have hblank : skipBlanks (c :: after) = c :: after := by
      rw [← hs, skipBlanks_skipBlanks]
    -- The character `c` is no operator of this level, because the loop stopped, and none of the
    -- operand's levels, because the operand before it ended.
    refine ⟨[], s', rfl, ⟨hends.no_digit, ?_⟩, hs'.trans hblank.symm, rfl, hheight,
      fun _ hk => absurd hk List.not_mem_nil, Or.inl rfl⟩
    intro op hlevel
    rw [hs', List.head?_cons]
    intro hsym
    rcases List.mem_cons.mp hlevel with hlevel | hlevel
    · have hsome := Level.operator?_eq_some_iff.mpr ⟨Option.some.inj hsym, hlevel⟩
      rw [hop] at hsome
      cases hsome
    · refine hends.no_operator op hlevel ?_
      rw [hs', List.head?_cons, hsym]
  | case3 => cases h
  | case4 => cases h
  | case5 left height s c after hs op hop right hr hfits ih =>
    -- The link is made of the blanks of `s'`, the operator, and the operand that was read; its text
    -- is what `s'` has and `rest₁` has not.
    obtain ⟨hc, hlevel⟩ := Level.operator?_eq_some_iff.mp hop
    obtain ⟨a, rest₁, hafter, hends₁, hskip₁, htree, hright, hadm, _⟩ := hexact.sound hr
    have hnext : max height right.height + 1 = (Expr.binary op left right.tree).height := by
      rw [Expr.height, hheight, hright, htree]
    obtain ⟨links, rest, hrest, hends, hskip, hptree, hpheight, hlinks, hbound⟩ :=
      ih hnext h hends₁ hskip₁
    rw [htree] at hptree hpheight hbound
    refine ⟨⟨leadingBlanks s', op, hlevel, a⟩ :: links, rest, ?_, hends, hskip, hptree, hpheight,
      ?_, Or.inr ?_⟩
    · rw [List.flatMap_cons, Link.text, List.append_assoc, List.append_assoc, List.cons_append,
        ← hrest, ← hafter, ← hc, ← hs, ← hs', leadingBlanks_append_skipBlanks]
    · rintro k (_ | ⟨_, hk⟩)
      · exact hadm
      · exact hlinks k hk
    · -- The last round compared the final height with the bound; an earlier round leaves it to the
      -- ones behind it.
      rcases hbound with rfl | hbound
      · rw [hnext, htree] at hfits
        exact Int.not_lt.mp hfits
      · exact hbound

/-- A list of links is read whole, if its operands are admitted and the tree it ends with keeps the
bound. Every tree on the way is lower than that one, so the bound is kept on the way as well. -/
theorem chainLoop_complete (hexact : operand.Exact levels text tree admitted bound)
    (hlevel : level ∉ levels) {links : List (Link level α)} {rest : List Char}
    (hrest : Ends (level :: levels) rest) (hadm : ∀ k ∈ links, admitted k.operand)
    {left : Expr} {height : Nat} (hheight : height = left.height)
    (hbound : links = [] ∨ ((attach tree left links).height : Int) ≤ bound) :
    ∃ p, chainLoop level operand bound left height (links.flatMap (Link.text text) ++ rest) = .ok p
      ∧ p.tree = attach tree left links ∧ p.height = (attach tree left links).height
      ∧ skipBlanks p.rest = skipBlanks rest := by
  induction links generalizing left height with
  | nil =>
    rw [List.flatMap_nil, List.nil_append]
    rcases hs : skipBlanks rest with _ | ⟨c, after⟩
    · exact ⟨_, chainLoop_of_nil hs, rfl, hheight, rfl⟩
    · have hop : level.operator? c = none := by
        rcases hop : level.operator? c with _ | op
        · rfl
        · obtain ⟨hc, hl⟩ := Level.operator?_eq_some_iff.mp hop
          refine absurd ?_ (hrest.no_operator op (hl ▸ List.mem_cons_self))
          rw [hs, hc, List.head?_cons]
      refine ⟨_, chainLoop_of_none hs hop, rfl, hheight, ?_⟩
      rw [← hs, skipBlanks_skipBlanks]
  | cons k links ih =>
    have hbound : ((attach tree left (k :: links)).height : Int) ≤ bound :=
      hbound.resolve_left (List.cons_ne_nil _ _)
    -- The operand is lower than the whole chain, so it fits and is read.
    have hlower := height_lt_attach_cons tree left k links
    obtain ⟨right, hread, htree, hright, hskip⟩ :=
      hexact.complete (ends_links_append hlevel text links hrest) (hadm k List.mem_cons_self)
        (Or.inr (by omega))
    have hs : skipBlanks ((k :: links).flatMap (Link.text text) ++ rest)
        = k.op.symbol :: (text k.operand ++ (links.flatMap (Link.text text) ++ rest)) := by
      rw [List.flatMap_cons, List.append_assoc, skipBlanks_link_append]
    have hop : level.operator? k.op.symbol = some k.op :=
      Level.operator?_eq_some_iff.mpr ⟨rfl, k.op_level⟩
    have hfits : ¬ bound < (max height right.height + 1 : Nat) := by
      rw [hheight, hright]
      omega
    have hnext : max height right.height + 1
        = (Expr.binary k.op left (tree k.operand)).height := by
      rw [Expr.height, hheight, hright]
    -- The reader of the operand may have gone over the blanks before the next link.
    rw [chainLoop_of_some hs hop, hread]
    dsimp only
    rw [if_neg hfits, htree, chainLoop_congr hskip, attach_cons]
    rw [attach_cons] at hbound
    exact ih (fun k' hk' => hadm k' (List.mem_cons_of_mem _ hk')) hnext (Or.inr hbound)

/-- **Chains of what is read exactly are read exactly.** -/
theorem Reader.Exact.chain (hexact : operand.Exact levels text tree admitted bound)
    (hlevel : level ∉ levels) :
    (Reader.chain level operand bound).Exact (level :: levels)
      (fun c : Chain level α => c.text text) (fun c => c.tree tree)
      (fun c => ∀ a ∈ c.operands, admitted a) bound where
  sound := by
    intro s p h
    rw [Reader.read_chain] at h
    split at h
    · cases h
    · next first hfirst =>
      obtain ⟨a, rest₁, hs, hends₁, hskip₁, htree, hheight, hadm, hfits⟩ := hexact.sound hfirst
      obtain ⟨links, rest, hrest, hends, hskip, hptree, hpheight, hlinks, hbound⟩ :=
        chainLoop_sound hexact (by rw [hheight, htree]) h hends₁ hskip₁
      rw [htree] at hptree hpheight hbound
      refine ⟨⟨a, links⟩, rest, ?_, hends, hskip, hptree, hpheight, ?_, ?_⟩
      · rw [Chain.text, List.append_assoc, ← hrest, ← hs]
      · intro b hb
        rcases List.mem_cons.mp hb with rfl | hb
        · exact hadm
        · obtain ⟨k, hk, rfl⟩ := List.mem_map.mp hb
          exact hlinks k hk
      · rcases hbound with rfl | hbound
        · exact hfits
        · exact Or.inr hbound
  complete := by
    intro c rest hends hadm hfits
    have hfirst : Fits bound (tree c.first) := by
      have hle := height_le_attach tree (tree c.first) c.links
      rcases hfits with hzero | hbound
      · rw [Chain.tree] at hzero
        exact Or.inl (by omega)
      · rw [Chain.tree] at hbound
        exact Or.inr (by omega)
    -- A chain of height zero has no links, so where there are links the bound is really kept.
    have hbound : c.links = [] ∨ ((c.tree tree).height : Int) ≤ bound := by
      rcases hlinks : c.links with _ | ⟨k, links⟩
      · exact Or.inl rfl
      · rcases hfits with hzero | hbound
        · have hlt := height_lt_attach_cons tree (tree c.first) k links
          rw [Chain.tree, hlinks] at hzero
          omega
        · exact Or.inr hbound
    obtain ⟨first, hread, htree, hheight, hskip⟩ :=
      hexact.complete (ends_links_append hlevel text c.links hends)
        (hadm c.first List.mem_cons_self) hfirst
    obtain ⟨p, hloop, hp⟩ := chainLoop_complete hexact hlevel hends
      (fun k hk => hadm k.operand (List.mem_cons_of_mem _ (List.mem_map_of_mem hk))) rfl hbound
    refine ⟨p, ?_, hp⟩
    rw [Chain.text, List.append_assoc, Reader.read_chain, hread]
    dsimp only
    rw [htree, hheight, chainLoop_congr hskip, hloop]

end Chain

/-! ## Whole texts -/

theorem exact_expression (bound : Int) :
    (Reader.chain .lower (.chain .higher .numeral bound) bound).Exact [.lower, .higher]
      (fun e : Expression => e.text (Chain.text Numeral.text))
      (fun e => e.tree (Chain.tree Numeral.tree))
      (fun e => ∀ t ∈ e.operands, ∀ m ∈ t.operands, (m.value : Int) ≤ Word.greatest) bound :=
  ((exact_numeral bound).chain (by decide)).chain (by decide)

/-- A text is read to a tree exactly when it is a sentence with that tree, all of whose numbers are
in range, and the tree fits. -/
theorem parseChars_eq_ok_iff {bound : Int} {s : List Char} {t : Expr} :
    parseChars bound s = .ok t ↔
      ∃ d : Sentence, d.text = s ∧ (∀ m ∈ d.numerals, (m.value : Int) ≤ Word.greatest)
        ∧ Fits bound d.tree ∧ d.tree = t := by
  constructor
  · intro h
    rw [parseChars, expression_eq_read] at h
    split at h
    · cases h
    · next p hp =>
      obtain ⟨e, rest, hs, _, hskip, htree, _, hadm, hfits⟩ := (exact_expression bound).sound hp
      split at h
      · next hrest =>
        cases h
        rw [hrest] at hskip
        -- Nothing is left behind the blanks that follow the expression, so they are all there is.
        have hblank : ∀ c ∈ rest, c ∈ blankChars := fun c hc =>
          mem_blankChars_iff.mpr (List.dropWhile_eq_nil_iff.mp hskip c hc)
        refine ⟨⟨e, ⟨rest, hblank⟩⟩, hs.symm, ?_, hfits, htree.symm⟩
        intro m hm
        obtain ⟨t, ht, hm⟩ := List.mem_flatMap.mp hm
        exact hadm t ht m hm
      · cases h
  · rintro ⟨d, rfl, hrange, hfits, rfl⟩
    obtain ⟨p, hread, htree, _, hskip⟩ := (exact_expression bound).complete
      (ends_blanks _ d.blanks)
      (fun t ht m hm => hrange m (List.mem_flatMap.mpr ⟨t, ht, hm⟩)) hfits
    have hend : skipBlanks p.rest = [] := by
      rw [hskip]
      exact List.dropWhile_eq_nil_iff.mpr fun c hc => d.blanks.isBlank_of_mem hc
    rw [parseChars, expression_eq_read, Sentence.text, hread]
    dsimp only
    rw [hend, htree]
    rfl

end Parser

/-! ## Acceptance -/

namespace Grammar

variable {α : Type} {level : Level}

theorem attach_pure {tree : α → Expr} {left : Expr} {links : List (Link level α)}
    (hleft : left.Pure) (htree : ∀ a, (tree a).Pure) : (attach tree left links).Pure := by
  induction links generalizing left with
  | nil => exact hleft
  | cons k links ih => exact ih ⟨hleft, htree k.operand⟩

theorem Sentence.tree_pure (d : Sentence) : d.tree.Pure := by
  have hterm : ∀ t : Term, (t.tree Numeral.tree).Pure := fun t =>
    attach_pure trivial fun _ => trivial
  exact attach_pure (hterm _) hterm

/-- A sentence that the reader accepts under a bound: every number is at most the greatest word, and
the tree is a number alone or has at most as many levels as the bound says. -/
def Sentence.Admissible (bound : Int) (d : Sentence) : Prop :=
  (∀ m ∈ d.numerals, (m.value : Int) ≤ Word.greatest)
    ∧ ((∃ n, d.tree = .number n) ∨ (d.tree.measuredHeight : Int) ≤ bound)

end Grammar

/-- Among trees without foreign leaves only the numbers have no level. -/
theorem Expr.height_eq_zero_iff {e : Expr} (hpure : e.Pure) :
    e.height = 0 ↔ ∃ n, e = .number n := by
  cases e with
  | number n => exact ⟨fun _ => ⟨n, rfl⟩, fun _ => rfl⟩
  | foreign kind => exact hpure.elim
  | binary op l r =>
    refine ⟨fun h => absurd h (Nat.succ_ne_zero _), ?_⟩
    rintro ⟨n, hn⟩
    cases hn

namespace Parser

theorem fits_tree_iff (bound : Int) (d : Sentence) :
    Fits bound d.tree
      ↔ (∃ n, d.tree = .number n) ∨ (d.tree.measuredHeight : Int) ≤ bound := by
  rw [Fits, Expr.height_eq_zero_iff d.tree_pure, Expr.measuredHeight_eq_height]

/-- The texts that are read are the admissible sentences, and each is read to its own tree. -/
theorem parse_eq_ok_iff {bound : Int} {text : String} {t : Expr} :
    parse bound text = .ok t ↔
      ∃ d : Sentence, d.text = text.toList ∧ d.Admissible bound ∧ d.tree = t := by
  have hchars : parse bound text = .ok t ↔ parseChars bound text.toList = .ok t := by
    rw [parse]
    rcases parseChars bound text.toList with stop | e
    · constructor <;> intro h <;> cases h
    · simp only [Except.ok.injEq]
  rw [hchars, parseChars_eq_ok_iff]
  constructor
  · rintro ⟨d, hd, hrange, hfits, ht⟩
    exact ⟨d, hd, ⟨hrange, (fits_tree_iff bound d).mp hfits⟩, ht⟩
  · rintro ⟨d, hd, ⟨hrange, hfits⟩, ht⟩
    exact ⟨d, hd, hrange, (fits_tree_iff bound d).mpr hfits, ht⟩

end Parser

end Reckoner
