import Reckoner.Proofs.ViablePrefix

/-!
# Where and why the reader stops

A failure to read names a reason and the rest of the text from the point of failure on. This file
says what the reason entails (`StopsAt`): which phase of a sentence has been reached by what was
read before that point, and how the rest goes on.

* Where a number was expected, a number is due, and the text ends or goes on with a character that
  cannot belong to one.
* Where a literal is out of range, a number is due and a run of digits follows that denotes too
  much. No digit stands before the run, since a number is not due within a number.
* Where input is left over, a number lies behind, and no sentence goes on with the next character.
* Where an operator is too deep, a number lies behind and the operator follows.

The reader of numbers has the first two reasons only, and a loop adds the fourth. Whatever a loop
reads before an operand stops takes the phase from behind a number to where the next one is due, so
a statement about the operand's failure becomes one about the loop's (`StopsAt.behind`). The reader
of whole texts adds the third.

A tree is at most as high as it has operators, and each of them is written down. So a text with no
more operators than the bound has levels does not stop for its depth; for this the last case counts
the operators at hand.
-/

namespace Reckoner

open Grammar

/-! ## Counting operators -/

namespace Grammar

/-- How many characters of a text are operators. -/
def operatorCount (s : List Char) : Nat := s.countP (· ∈ operatorChars)

theorem operatorCount_append (s t : List Char) :
    operatorCount (s ++ t) = operatorCount s + operatorCount t :=
  List.countP_append

theorem operatorCount_symbol_cons (op : Operator) (s : List Char) :
    operatorCount (op.symbol :: s) = operatorCount s + 1 :=
  List.countP_cons_of_pos (decide_eq_true (mem_operatorChars_iff.mpr ⟨op, rfl⟩))

theorem operatorCount_blanks (b : Blanks) : operatorCount b.chars = 0 := by
  refine List.countP_eq_zero.mpr fun c hc => ?_
  simpa using not_mem_operatorChars_of_blank (b.all_blank c hc)

theorem operatorCount_skipBlanks (s : List Char) :
    operatorCount (Parser.skipBlanks s) = operatorCount s := by
  conv_rhs => rw [← Parser.leadingBlanks_append_skipBlanks s]
  rw [operatorCount_append, operatorCount_blanks, Nat.zero_add]

end Grammar

/-- How many operators a tree has. -/
def Expr.operators : Expr → Nat
  | number _ => 0
  | foreign _ => 0
  | binary _ l r => l.operators + r.operators + 1

theorem Expr.height_le_operators (e : Expr) : e.height ≤ e.operators := by
  induction e with
  | number n => exact Nat.le_refl _
  | foreign kind => exact Nat.le_refl _
  | binary op l r ihl ihr =>
    rw [height, operators]
    omega

namespace Grammar

variable {α : Type} {level : Level}

/-- Phrases with this text and tree have an operator in the text for each one in the tree. -/
def CountsOperators (text : α → List Char) (tree : α → Expr) : Prop :=
  ∀ a, operatorCount (text a) = (tree a).operators

theorem countsOperators_numeral : CountsOperators Numeral.text Numeral.tree := by
  intro m
  have hdigits : operatorCount m.digits = 0 := by
    refine List.countP_eq_zero.mpr fun c hc => ?_
    simpa using not_mem_operatorChars_of_digit (m.all_digit c hc)
  rw [Numeral.text, operatorCount_append, operatorCount_blanks, hdigits]
  rfl

theorem CountsOperators.link {text : α → List Char} {tree : α → Expr}
    (hcounts : CountsOperators text tree) (k : Link level α) :
    operatorCount (k.text text) = (tree k.operand).operators + 1 := by
  rw [Link.text, operatorCount_append, operatorCount_blanks, operatorCount_symbol_cons,
    hcounts k.operand, Nat.zero_add]

theorem CountsOperators.attach {text : α → List Char} {tree : α → Expr}
    (hcounts : CountsOperators text tree) (left : Expr) (links : List (Link level α)) :
    (attach tree left links).operators
      = left.operators + operatorCount (links.flatMap (Link.text text)) := by
  induction links generalizing left with
  | nil => rfl
  | cons k links ih =>
    rw [attach_cons, ih, List.flatMap_cons, operatorCount_append, hcounts.link, Expr.operators]
    omega

theorem CountsOperators.chain {text : α → List Char} {tree : α → Expr}
    (hcounts : CountsOperators text tree) :
    CountsOperators (fun c : Chain level α => c.text text) (fun c => c.tree tree) := by
  intro c
  dsimp only
  rw [Chain.text, operatorCount_append, hcounts c.first, Chain.tree, hcounts.attach]

end Grammar

namespace Parser

/-! ## Stops -/

/-- What is known of a failure, when `read` has been read up to it from the given phase on and when
`operators` of them are at hand. -/
inductive StopsAt (bound : Int) (phase : Phase) (operators : Nat) (read : List Char) : Stop → Prop
  | numberExpected {rest : List Char} (hread : phase.run read = some .numberDue)
      (hrest : ∀ c ∈ rest.head?, Phase.numberDue.after (.of c) = none) :
      StopsAt bound phase operators read ⟨.numberExpected, rest⟩
  | literalOutOfRange {digits rest : List Char} (hread : phase.run read = some .numberDue)
      (hne : digits ≠ []) (hdigits : ∀ c ∈ digits, c ∈ digitChars)
      (hrest : ∀ c ∈ rest.head?, c ∉ digitChars) (hbig : Word.greatest < Text.ofDigits digits) :
      StopsAt bound phase operators read ⟨.literalOutOfRange, digits ++ rest⟩
  | trailingInput {reached : Phase} {c : Char} {rest : List Char}
      (hread : phase.run read = some reached) (hreached : reached ≠ .numberDue)
      (hrest : reached.after (.of c) = none) :
      StopsAt bound phase operators read ⟨.trailingInput, c :: rest⟩
  | tooDeep {reached : Phase} {op : Operator} {rest : List Char}
      (hread : phase.run read = some reached) (hreached : reached ≠ .numberDue)
      (hdeep : bound < operators) :
      StopsAt bound phase operators read ⟨.tooDeep bound, op.symbol :: rest⟩

/-- More may have been read before, and more operators may be at hand. -/
theorem StopsAt.behind {bound : Int} {phase reached : Phase} {operators operators' : Nat}
    {before read : List Char} {stop : Stop} (hbefore : phase.run before = some reached)
    (hle : operators ≤ operators') (h : StopsAt bound reached operators read stop) :
    StopsAt bound phase operators' (before ++ read) stop := by
  have hrun := Phase.run_append_of_eq hbefore read
  cases h with
  | numberExpected hread hrest => exact .numberExpected (hrun.trans hread) hrest
  | literalOutOfRange hread hne hdigits hrest hbig =>
    exact .literalOutOfRange (hrun.trans hread) hne hdigits hrest hbig
  | trailingInput hread hreached hrest => exact .trailingInput (hrun.trans hread) hreached hrest
  | tooDeep hread hreached hdeep => exact .tooDeep (hrun.trans hread) hreached (by omega)

/-- A reader whose failures are as described. -/
def Reader.StopsWell (reader : Reader) (bound : Int) : Prop :=
  ∀ ⦃s : List Char⦄ ⦃stop : Stop⦄, reader.read s = .error stop →
    ∃ read, s = read ++ stop.rest ∧ StopsAt bound .numberDue (operatorCount s) read stop

/-! ### Numbers -/

theorem number_stops (bound : Int) {s : List Char} {stop : Stop} (h : number s = .error stop) :
    ∃ read, s = read ++ stop.rest ∧ StopsAt bound .numberDue (operatorCount s) read stop := by
  have hsplit := (leadingBlanks_append_skipBlanks s).symm
  have hread := Phase.run_numberDue_blanks (leadingBlanks s)
  have hdigits : ∀ c ∈ (skipBlanks s).takeWhile Char.isDigit, c.isDigit = true :=
    fun c hc => List.mem_takeWhile_imp hc
  unfold number at h
  split at h
  · next hnone =>
    cases h
    refine ⟨_, hsplit, .numberExpected hread ?_⟩
    intro c hc
    obtain ⟨rest, hs⟩ := List.head?_eq_some_iff.mp (Option.mem_def.mp hc)
    have hdigit : ¬ c.isDigit = true := by
      intro hdigit
      rw [hs, List.takeWhile_cons_of_pos hdigit] at hnone
      cases hnone
    cases hkind : Kind.of c with
    | blank =>
      rw [Kind.of_eq_blank_iff, mem_blankChars_iff, isBlank_of_skipBlanks hs] at hkind
      cases hkind
    | digit => exact absurd (mem_digitChars_iff.mp (Kind.of_eq_digit_iff.mp hkind)) hdigit
    | operator => rfl
    | other => rfl
  · next digit digits hrun =>
    have hlit := literal?_eq hdigits
    rw [hrun] at hlit hdigits
    split at h
    · next hnone =>
      cases h
      rw [hnone] at hlit
      have hbig : Word.greatest < Text.ofDigits (digit :: digits) := by
        by_contra hsmall
        rw [if_neg hsmall] at hlit
        cases hlit
      have hrest := (ends_dropWhile_isDigit (skipBlanks s)).no_digit
      have hs : skipBlanks s = digit :: digits ++ (skipBlanks s).dropWhile Char.isDigit := by
        rw [← hrun, List.takeWhile_append_dropWhile]
      refine ⟨_, hsplit, ?_⟩
      rw [hs]
      refine .literalOutOfRange hread (List.cons_ne_nil _ _)
        (fun c hc => mem_digitChars_iff.mpr (hdigits c hc)) (fun c hc => ?_) hbig
      rw [mem_digitChars_iff, hrest c hc]
      exact Bool.false_ne_true
    · cases h

theorem stopsWell_numeral (bound : Int) : Reader.numeral.StopsWell bound := by
  intro s stop h
  rw [Reader.numeral] at h
  dsimp only at h
  split at h
  · next hn =>
    cases h
    exact number_stops bound hn
  · cases h

/-! ### Chains -/

section Chain

variable {α : Type} {level : Level} {levels : List Level} {text : α → List Char}
  {tree : α → Expr} {admitted : α → Prop} {bound : Int} {operand : Reader}

/-- The failures of the loop. As with `chainLoop_sound`, the text may be given with the blanks at
its front already read (`s`) or not (`s'`). -/
theorem chainLoop_stops (hexact : operand.Exact levels text tree admitted bound)
    (hstops : operand.StopsWell bound) (hpassed : Passed text)
    (hcounts : CountsOperators text tree) {left : Expr} {height : Nat} {s : List Char} {stop : Stop}
    (h : chainLoop level operand bound left height s = .error stop)
    {s' : List Char} (hs' : skipBlanks s' = skipBlanks s) {phase : Phase}
    (hphase : phase ≠ .numberDue) :
    ∃ read, s' = read ++ stop.rest
      ∧ StopsAt bound phase (height + operatorCount s') read stop := by
  fun_induction chainLoop level operand bound left height s generalizing s' phase with
  | case1 => cases h
  | case2 => cases h
  | case3 left height s c after hs op hop stop' hr =>
    cases h
    obtain ⟨rfl, _⟩ := Level.operator?_eq_some_iff.mp hop
    obtain ⟨read, hafter, hstop⟩ := hstops hr
    have hsplit := leadingBlanks_append_skipBlanks s'
    rw [hs', hs] at hsplit
    refine ⟨(leadingBlanks s').chars ++ op.symbol :: read, ?_, ?_⟩
    · rw [List.append_assoc, List.cons_append, ← hafter, hsplit]
    · have hcount : operatorCount s' = operatorCount after + 1 := by
        rw [← operatorCount_skipBlanks, hs', hs, operatorCount_symbol_cons]
      have hbefore : phase.run ((leadingBlanks s').chars ++ [op.symbol]) = some .numberDue :=
        Phase.run_blanks_symbol hphase _ op []
      rw [List.append_cons]
      exact hstop.behind hbefore (by omega)
  | case4 left height s c after hs op hop right hr hdeep =>
    cases h
    obtain ⟨rfl, _⟩ := Level.operator?_eq_some_iff.mp hop
    obtain ⟨a, rest, hafter, _, _, _, hheight, _⟩ := hexact.sound hr
    have hsplit := leadingBlanks_append_skipBlanks s'
    rw [hs', hs] at hsplit
    obtain ⟨reached, hreached, hread⟩ := Phase.exists_run_blanks hphase (leadingBlanks s')
    refine ⟨_, hsplit.symm, .tooDeep hread hreached ?_⟩
    have hcount : operatorCount s' = (tree a).operators + operatorCount rest + 1 := by
      rw [← operatorCount_skipBlanks, hs', hs, operatorCount_symbol_cons, hafter,
        operatorCount_append, hcounts a]
    have hle := (tree a).height_le_operators
    omega
  | case5 left height s c after hs op hop right hr hfits ih =>
    obtain ⟨rfl, hlevel⟩ := Level.operator?_eq_some_iff.mp hop
    obtain ⟨a, rest, hafter, _, hskip, _, hheight, _⟩ := hexact.sound hr
    have hwithin : Phase.withinNumber ≠ .numberDue := by decide
    obtain ⟨read, hrest, hstop⟩ := ih h hskip hwithin
    have hsplit := leadingBlanks_append_skipBlanks s'
    rw [hs', hs] at hsplit
    -- The loop has gone over one link, and fails behind it.
    let k : Link level α := ⟨leadingBlanks s', op, hlevel, a⟩
    have hlink : s' = k.text text ++ rest := by
      rw [Link.text, List.append_assoc, List.cons_append, ← hafter, hsplit]
    refine ⟨k.text text ++ read, ?_, ?_⟩
    · rw [List.append_assoc, ← hrest, hlink]
    · have hcount : operatorCount s' = (tree a).operators + 1 + operatorCount rest := by
        rw [hlink, operatorCount_append, hcounts.link]
      have hle := (tree a).height_le_operators
      exact hstop.behind (hpassed.run_link hphase k) (by omega)

theorem Reader.StopsWell.chain (hexact : operand.Exact levels text tree admitted bound)
    (hstops : operand.StopsWell bound) (hpassed : Passed text)
    (hcounts : CountsOperators text tree) :
    (Reader.chain level operand bound).StopsWell bound := by
  intro s stop h
  rw [Reader.read_chain] at h
  split at h
  · next hfirst =>
    cases h
    exact hstops hfirst
  · next first hfirst =>
    obtain ⟨a, rest, rfl, _, hskip, _, hheight, _⟩ := hexact.sound hfirst
    have hwithin : Phase.withinNumber ≠ .numberDue := by decide
    obtain ⟨read, hrest, hstop⟩ := chainLoop_stops hexact hstops hpassed hcounts h hskip hwithin
    refine ⟨text a ++ read, by rw [List.append_assoc, ← hrest], ?_⟩
    have hle := (tree a).height_le_operators
    refine hstop.behind (hpassed a) ?_
    rw [operatorCount_append, hcounts a]
    omega

end Chain

/-! ## Whole texts -/

theorem stopsWell_expression (bound : Int) :
    (Reader.chain .lower (.chain .higher .numeral bound) bound).StopsWell bound := by
  have hterm : (Reader.chain .higher .numeral bound).StopsWell bound :=
    Reader.StopsWell.chain (exact_numeral bound) (stopsWell_numeral bound) passed_numeral
      countsOperators_numeral
  exact Reader.StopsWell.chain ((exact_numeral bound).chain (by decide)) hterm
    passed_numeral.chain countsOperators_numeral.chain

/-- **What a failure to read a text entails.** -/
theorem parseChars_stops {bound : Int} {s : List Char} {stop : Stop}
    (h : parseChars bound s = .error stop) :
    ∃ read, s = read ++ stop.rest ∧ StopsAt bound .numberDue (operatorCount s) read stop := by
  rw [parseChars, expression_eq_read] at h
  split at h
  · next hstop =>
    cases h
    exact stopsWell_expression bound hstop
  · next p hp =>
    obtain ⟨e, rest, hs, hends, hskip, _⟩ := (exact_expression bound).sound hp
    split at h
    · cases h
    · next hleft =>
      cases h
      rcases hrest : skipBlanks rest with _ | ⟨c, behind⟩
      · exact absurd (hskip.symm.trans hrest) hleft
      · -- Neither loop took the next character, so it is no operator of either level.
        have hop : c ∉ operatorChars := by
          rw [mem_operatorChars_iff]
          rintro ⟨op, rfl⟩
          have hlevel : op.level ∈ [Level.lower, Level.higher] := by cases op <;> decide
          exact hends.no_operator op hlevel (by rw [hrest, List.head?_cons])
        obtain ⟨reached, hreached, hblanks, hafter⟩ :=
          Phase.exists_run_leadingBlanks hends.no_digit hrest
        rw [if_neg hop] at hafter
        refine ⟨e.text (Chain.text Numeral.text) ++ (leadingBlanks rest).chars, ?_, ?_⟩
        · rw [← hskip, List.append_assoc, leadingBlanks_append_skipBlanks, hs]
        · rw [← hskip, hrest]
          refine .trailingInput ?_ hreached hafter
          rw [Phase.run_append_of_eq (passed_expression e), hblanks]

/-! ## Reports -/

/-- How the wording of a reason begins. -/
def Reason.opening : Reason → List Char
  | numberExpected => ['e', 'x', 'p', 'e']
  | literalOutOfRange => ['i', 'n', 't', 'e']
  | trailingInput => ['u', 'n', 'e', 'x']
  | tooDeep _ => ['e', 'x', 'p', 'r']

theorem Reason.text_tooDeep (b : Int) :
    (tooDeep b).text = "expression nests deeper than " ++ Text.decimal b ++ " levels" := rfl

theorem Reason.take_text (reason : Reason) : reason.text.toList.take 4 = reason.opening := by
  cases reason with
  | numberExpected => rfl
  | literalOutOfRange => rfl
  | trailingInput => rfl
  | tooDeep b =>
    have hopening : "expression nests deeper than ".toList
        = 'e' :: 'x' :: 'p' :: 'r' :: "ession nests deeper than ".toList := by decide
    rw [text_tooDeep, String.toList_append, String.toList_append, hopening]
    simp only [List.cons_append, List.take_succ_cons, List.take_zero, opening]

/-- Two reasons with one wording are the same, or both are about depth. -/
theorem Reason.text_eq_cases {reason reason' : Reason} (h : reason.text = reason'.text) :
    reason = reason' ∨ ∃ b b', reason = .tooDeep b ∧ reason' = .tooDeep b' := by
  have hopening : reason.opening = reason'.opening := by
    rw [← take_text, ← take_text, h]
  cases reason <;> cases reason' <;> simp [opening] at hopening ⊢

end Parser

/-- Where in the text an error was found: so many characters stand before the unread rest. -/
def SyntaxError.offset (text : String) (e : SyntaxError) : Nat := text.length - e.fragment.length

namespace Parser

/-- An error that reports a failure behind what was read of a text. -/
structure Reports (text : String) (read : List Char) (stop : Stop) (e : SyntaxError) : Prop where
  toList_text : text.toList = read ++ stop.rest
  reason : e.reason = stop.reason.text
  line : e.line = (Position.after read).line
  column : e.column = (Position.after read).column
  fragment : e.fragment.toList = stop.rest
  offset : e.offset text = read.length

theorem reports_ofStop {text : String} {read : List Char} {stop : Stop}
    (h : text.toList = read ++ stop.rest) :
    Reports text read stop (.ofStop text.toList stop) := by
  have htake : text.toList.take (text.toList.length - stop.rest.length) = read := by
    rw [h, List.length_append, Nat.add_sub_cancel, List.take_left]
  refine ⟨h, rfl, ?_, ?_, String.toList_ofList, ?_⟩
  · dsimp only [SyntaxError.ofStop]
    rw [htake]
  · dsimp only [SyntaxError.ofStop]
    rw [htake]
  · dsimp only [SyntaxError.offset, SyntaxError.ofStop]
    rw [← String.length_toList, ← String.length_toList, String.toList_ofList, h,
      List.length_append, Nat.add_sub_cancel]

theorem parse_eq_ok_iff_parseChars {bound : Int} {text : String} {t : Expr} :
    parse bound text = .ok t ↔ parseChars bound text.toList = .ok t := by
  rw [parse]
  rcases parseChars bound text.toList with stop | e <;> simp

theorem parse_of_parseChars_error {bound : Int} {text : String} {stop : Stop}
    (h : parseChars bound text.toList = .error stop) :
    parse bound text = .error (.ofStop text.toList stop) := by
  rw [parse, h]

/-- A text that is refused has been read up to a stop, and this is what the error reports. -/
theorem exists_reports_of_parse {bound : Int} {text : String} {e : SyntaxError}
    (h : parse bound text = .error e) :
    ∃ stop read, parseChars bound text.toList = .error stop ∧ Reports text read stop e
      ∧ StopsAt bound .numberDue (operatorCount text.toList) read stop := by
  rcases hchars : parseChars bound text.toList with stop | t
  · obtain ⟨read, htext, hstop⟩ := parseChars_stops hchars
    rw [parse_of_parseChars_error hchars] at h
    cases h
    exact ⟨stop, read, rfl, reports_ofStop htext, hstop⟩
  · rw [parse, hchars] at h
    cases h

end Parser

end Reckoner
