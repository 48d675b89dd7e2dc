import Reckoner.Proofs.ParserExactness

/-!
# Beginnings of sentences

Which texts can be continued to a sentence is a question about all sentences at once, and yet going
over the text a single time decides it. Precedence does not matter for it: as far as the characters
are concerned, a sentence is numbers with operators between them and blanks around everything, and
all that has to be remembered on the way is whether a number is due, is being written, or lies
behind (`Phase`). Only the kind of a character counts (`Kind`).

So a text is viable exactly if a phase is reached at its end (`viable_iff`), and it is a sentence
exactly if moreover no number is due there (`isSentence_iff`). From the grammar to the phases the
proof follows the chains, as everywhere: a phrase takes the phase from "a number is due" to "within
a number" (`Passed`), and chains of such phrases do the same. The way back builds a derivation from
the front of the text. A number and an operator put in front of a sentence make another one
(`isSentence_append`), where the operator decides whether the number joins the first term or becomes
a term of its own.
-/

namespace Reckoner

/-- Skipping blanks leaves none at the front. -/
theorem Parser.isBlank_of_skipBlanks {s rest : List Char} {c : Char}
    (h : skipBlanks s = c :: rest) : isBlank c = false := by
  have hhead := List.head?_dropWhile_not isBlank s
  rw [show s.dropWhile isBlank = c :: rest from h, List.head?_cons] at hhead
  exact hhead

namespace Grammar

open Reckoner.Parser (skipBlanks leadingBlanks leadingBlanks_append_skipBlanks)

/-- A text that the grammar derives. Neither the size of its numbers nor the depth of its tree
matters. -/
def IsSentence (s : List Char) : Prop := ∃ d : Sentence, d.text = s

/-- A text that some sentence begins with. -/
def Viable (s : List Char) : Prop := ∃ d : Sentence, s <+: d.text

/-! ## Kinds of characters -/

/-- The characters that operators are written with. -/
def operatorChars : List Char := ['+', '-', '*', '/']

theorem mem_operatorChars_iff {c : Char} : c ∈ operatorChars ↔ ∃ op : Operator, c = op.symbol := by
  constructor
  · intro hc
    simp only [operatorChars, List.mem_cons, List.not_mem_nil, or_false] at hc
    rcases hc with rfl | rfl | rfl | rfl
    · exact ⟨.add, rfl⟩
    · exact ⟨.sub, rfl⟩
    · exact ⟨.mul, rfl⟩
    · exact ⟨.div, rfl⟩
  · rintro ⟨op, rfl⟩
    cases op <;> decide

theorem not_mem_digitChars_of_blank {c : Char} (hc : c ∈ blankChars) : c ∉ digitChars := by
  rw [mem_digitChars_iff, isDigit_of_isBlank (mem_blankChars_iff.mp hc)]
  exact Bool.false_ne_true

theorem not_mem_operatorChars_of_blank {c : Char} (hc : c ∈ blankChars) : c ∉ operatorChars := by
  rw [mem_operatorChars_iff]
  rintro ⟨op, rfl⟩
  rw [mem_blankChars_iff, op.isBlank_symbol] at hc
  cases hc

theorem not_mem_operatorChars_of_digit {c : Char} (hc : c ∈ digitChars) : c ∉ operatorChars := by
  rw [mem_operatorChars_iff]
  rintro ⟨op, rfl⟩
  rw [mem_digitChars_iff, op.isDigit_symbol] at hc
  cases hc

/-- What a character can be in a sentence. -/
inductive Kind where
  | blank
  | digit
  | operator
  | other
  deriving DecidableEq, Repr

def Kind.of (c : Char) : Kind :=
  if c ∈ blankChars then .blank
  else if c ∈ digitChars then .digit
  else if c ∈ operatorChars then .operator
  else .other

namespace Kind

theorem of_eq_blank_iff {c : Char} : Kind.of c = .blank ↔ c ∈ blankChars := by
  unfold Kind.of
  split_ifs with hblank hdigit hop <;> simp [hblank]

theorem of_eq_digit_iff {c : Char} : Kind.of c = .digit ↔ c ∈ digitChars := by
  unfold Kind.of
  split_ifs with hblank hdigit hop
  · simp [not_mem_digitChars_of_blank hblank]
  all_goals simp [hdigit]

theorem of_eq_operator_iff {c : Char} : Kind.of c = .operator ↔ c ∈ operatorChars := by
  unfold Kind.of
  split_ifs with hblank hdigit hop
  · simp [not_mem_operatorChars_of_blank hblank]
  · simp [not_mem_operatorChars_of_digit hdigit]
  all_goals simp [hop]

theorem of_symbol (op : Operator) : Kind.of op.symbol = .operator :=
  of_eq_operator_iff.mpr (mem_operatorChars_iff.mpr ⟨op, rfl⟩)

end Kind

/-! ## Phases -/

/-- How far a sentence has come. -/
inductive Phase where
  /-- Only blanks have been written, or only blanks since the last operator. -/
  | numberDue
  /-- The last character is a digit. -/
  | withinNumber
  /-- Blanks have been written behind a number. -/
  | behindNumber
  deriving DecidableEq, Repr

namespace Phase

/-- The phase after one more character, if a sentence can go on with a character of this kind. -/
def after : Phase → Kind → Option Phase
  | numberDue, .blank => some numberDue
  | numberDue, .digit => some withinNumber
  | withinNumber, .blank => some behindNumber
  | withinNumber, .digit => some withinNumber
  | withinNumber, .operator => some numberDue
  | behindNumber, .blank => some behindNumber
  | behindNumber, .operator => some numberDue
  | _, _ => none

/-- A sentence can go on with a blank wherever it is. -/
theorem after_blank_ne_none (phase : Phase) : phase.after .blank ≠ none := by
  cases phase <;> exact Option.some_ne_none _

theorem after_operator {phase : Phase} (hphase : phase ≠ numberDue) :
    phase.after .operator = some numberDue := by
  cases phase with
  | numberDue => exact absurd rfl hphase
  | withinNumber => rfl
  | behindNumber => rfl

/-- The phase at the end of a text, if a sentence can go on with all of it. -/
def run : Phase → List Char → Option Phase
  | phase, [] => some phase
  | phase, c :: s => (phase.after (.of c)).bind (run · s)

theorem run_append (phase : Phase) (s t : List Char) :
    phase.run (s ++ t) = (phase.run s).bind (run · t) := by
  induction s generalizing phase with
  | nil => rfl
  | cons c s ih =>
    rw [List.cons_append, run, run]
    rcases phase.after (.of c) with _ | next
    · rfl
    · exact ih next

theorem run_append_of_eq {phase reached : Phase} {s : List Char} (h : phase.run s = some reached)
    (t : List Char) : phase.run (s ++ t) = reached.run t := by
  rw [run_append, h, Option.bind_some]

/-- Where a number is due, the character before is no digit. -/
theorem getLast?_of_run {phase : Phase} {s : List Char} (h : phase.run s = some .numberDue) :
    ∀ c ∈ s.getLast?, c ∉ digitChars := by
  intro c hc hdigit
  obtain ⟨s, rfl⟩ := List.getLast?_eq_some_iff.mp (Option.mem_def.mp hc)
  rw [run_append] at h
  rcases hreached : phase.run s with _ | reached
  · rw [hreached] at h
    cases h
  · rw [hreached, Option.bind_some, run, Kind.of_eq_digit_iff.mpr hdigit] at h
    cases reached <;> cases h

/-! ### Blanks, digits and operators -/

/-- Characters of a kind that leaves the phase as it is do so any number of times. -/
theorem run_of_fixed {phase : Phase} {kind : Kind} (hfixed : phase.after kind = some phase)
    {s : List Char} (hall : ∀ c ∈ s, Kind.of c = kind) : phase.run s = some phase := by
  induction s with
  | nil => rfl
  | cons c s ih =>
    rw [run, hall c List.mem_cons_self, hfixed]
    exact ih fun c hc => hall c (List.mem_cons_of_mem _ hc)

theorem run_numberDue_blanks (b : Blanks) : numberDue.run b.chars = some numberDue :=
  run_of_fixed rfl fun c hc => Kind.of_eq_blank_iff.mpr (b.all_blank c hc)

theorem run_behindNumber_blanks (b : Blanks) : behindNumber.run b.chars = some behindNumber :=
  run_of_fixed rfl fun c hc => Kind.of_eq_blank_iff.mpr (b.all_blank c hc)

theorem run_withinNumber_blanks (b : Blanks) :
    withinNumber.run b.chars = some (if b.chars = [] then withinNumber else behindNumber) := by
  obtain ⟨chars, hall⟩ := b
  cases chars with
  | nil => rfl
  | cons c chars =>
    have hrest := run_behindNumber_blanks ⟨chars, fun c hc => hall c (List.mem_cons_of_mem _ hc)⟩
    rw [run, Kind.of_eq_blank_iff.mpr (hall c List.mem_cons_self), if_neg (List.cons_ne_nil _ _)]
    exact hrest

/-- Blanks behind a number do not make another number due. -/
theorem exists_run_blanks {phase : Phase} (hphase : phase ≠ numberDue) (b : Blanks) :
    ∃ reached, reached ≠ numberDue ∧ phase.run b.chars = some reached := by
  cases phase with
  | numberDue => exact absurd rfl hphase
  | withinNumber =>
    refine ⟨_, ?_, run_withinNumber_blanks b⟩
    split <;> decide
  | behindNumber => exact ⟨_, by decide, run_behindNumber_blanks b⟩

/-- Behind a number, blanks and an operator make the next number due. -/
theorem run_blanks_symbol {phase : Phase} (hphase : phase ≠ numberDue) (b : Blanks) (op : Operator)
    (s : List Char) : phase.run (b.chars ++ op.symbol :: s) = numberDue.run s := by
  obtain ⟨reached, hreached, hrun⟩ := exists_run_blanks hphase b
  rw [run_append_of_eq hrun, run, Kind.of_symbol, after_operator hreached, Option.bind_some]

/-- What stands behind a number and its blanks is taken for an operator or not at all: a digit would
have belonged to the number, unless there are blanks between. -/
theorem exists_run_leadingBlanks {s rest : List Char} {c : Char}
    (hdigit : ∀ c ∈ s.head?, c.isDigit = false) (hs : skipBlanks s = c :: rest) :
    ∃ reached, reached ≠ numberDue ∧ withinNumber.run (leadingBlanks s).chars = some reached
      ∧ reached.after (.of c) = if c ∈ operatorChars then some numberDue else none := by
  have hblank : Kind.of c ≠ .blank := by
    rw [Ne, Kind.of_eq_blank_iff, mem_blankChars_iff, Parser.isBlank_of_skipBlanks hs]
    exact Bool.false_ne_true
  have hsplit := leadingBlanks_append_skipBlanks s
  refine ⟨_, ?_, run_withinNumber_blanks _, ?_⟩
  · split <;> decide
  · rw [← if_congr Kind.of_eq_operator_iff rfl rfl]
    split
    · next hnil =>
      -- Without blanks the character comes right behind the number, and so it is no digit.
      rw [hnil, List.nil_append, hs] at hsplit
      have hnot : Kind.of c ≠ .digit := by
        rw [Ne, Kind.of_eq_digit_iff, mem_digitChars_iff, hdigit c (by rw [← hsplit]; rfl)]
        exact Bool.false_ne_true
      cases hkind : Kind.of c with
      | blank => exact absurd hkind hblank
      | digit => exact absurd hkind hnot
      | operator => rfl
      | other => rfl
    · cases hkind : Kind.of c with
      | blank => exact absurd hkind hblank
      | digit => rfl
      | operator => rfl
      | other => rfl

end Phase

/-! ## From the grammar to the phases -/

variable {α : Type} {level : Level}

/-- Phrases with this text start where a number is due and end within a number. -/
def Passed (text : α → List Char) : Prop :=
  ∀ a, Phase.numberDue.run (text a) = some .withinNumber

theorem passed_numeral : Passed Numeral.text := by
  intro m
  obtain ⟨digit, digits, hm⟩ := List.exists_cons_of_ne_nil m.digits_ne_nil
  have hall : ∀ c ∈ digit :: digits, c ∈ digitChars := by
    rw [← hm]
    exact m.all_digit
  rw [Numeral.text, Phase.run_append_of_eq (Phase.run_numberDue_blanks m.blanks), hm, Phase.run,
    Kind.of_eq_digit_iff.mpr (hall digit List.mem_cons_self)]
  exact Phase.run_of_fixed rfl fun c hc =>
    Kind.of_eq_digit_iff.mpr (hall c (List.mem_cons_of_mem _ hc))

theorem Passed.run_link {text : α → List Char} (hpassed : Passed text) {phase : Phase}
    (hphase : phase ≠ .numberDue) (k : Link level α) :
    phase.run (k.text text) = some .withinNumber := by
  rw [Link.text, Phase.run_blanks_symbol hphase, hpassed]

theorem Passed.chain {text : α → List Char} (hpassed : Passed text) :
    Passed fun c : Chain level α => c.text text := by
  intro c
  dsimp only
  rw [Chain.text, Phase.run_append_of_eq (hpassed c.first)]
  induction c.links with
  | nil => rfl
  | cons k links ih =>
    rw [List.flatMap_cons, Phase.run_append_of_eq (hpassed.run_link (by decide) k), ih]

theorem passed_expression : Passed fun e : Expression => e.text (Chain.text Numeral.text) :=
  passed_numeral.chain.chain

theorem Sentence.exists_run_text (d : Sentence) :
    ∃ phase, Phase.numberDue.run d.text = some phase ∧ phase ≠ .numberDue := by
  have hwithin : Phase.withinNumber ≠ .numberDue := by decide
  obtain ⟨phase, hphase, hrun⟩ := Phase.exists_run_blanks hwithin d.blanks
  refine ⟨phase, ?_, hphase⟩
  rw [Sentence.text, Phase.run_append_of_eq (passed_expression d.expression), hrun]

/-! ## From the phases to the grammar -/

/-- A number and an operator in front of a sentence make a sentence. -/
theorem isSentence_append (m : Numeral) (b : Blanks) (op : Operator) {s : List Char}
    (hs : IsSentence s) : IsSentence (m.text ++ (b.chars ++ op.symbol :: s)) := by
  obtain ⟨⟨⟨⟨first, factors⟩, terms⟩, blanks⟩, rfl⟩ := hs
  cases hlevel : op.level with
  | higher =>
    -- The number becomes the first factor of the first term.
    refine ⟨⟨⟨⟨m, ⟨b, op, hlevel, first⟩ :: factors⟩, terms⟩, blanks⟩, ?_⟩
    simp [Sentence.text, Chain.text, Link.text]
  | lower =>
    refine ⟨⟨⟨⟨m, []⟩, ⟨b, op, hlevel, ⟨first, factors⟩⟩ :: terms⟩, blanks⟩, ?_⟩
    simp [Sentence.text, Chain.text, Link.text]

/-- Where a number is due and one is written before the end, it comes first. -/
theorem exists_numeral_of_run {s : List Char} {phase : Phase}
    (hrun : Phase.numberDue.run s = some phase) (hphase : phase ≠ .numberDue) :
    ∃ (m : Numeral) (rest : List Char), s = m.text ++ rest ∧ Ends [] rest
      ∧ Phase.withinNumber.run rest = some phase := by
  have hsplit := leadingBlanks_append_skipBlanks s
  have hskip : Phase.numberDue.run (skipBlanks s) = some phase := by
    rw [← hsplit, Phase.run_append_of_eq (Phase.run_numberDue_blanks _)] at hrun
    exact hrun
  have hdigits : (skipBlanks s).takeWhile Char.isDigit ≠ [] := by
    rcases hs : skipBlanks s with _ | ⟨c, rest⟩
    · rw [hs] at hskip
      exact absurd (Option.some.inj hskip).symm hphase
    · have hdigit : c.isDigit = true := by
        rw [← mem_digitChars_iff, ← Kind.of_eq_digit_iff]
        rw [hs, Phase.run] at hskip
        cases hkind : Kind.of c with
        | blank =>
          rw [Kind.of_eq_blank_iff, mem_blankChars_iff, Parser.isBlank_of_skipBlanks hs] at hkind
          cases hkind
        | digit => rfl
        | operator => rw [hkind] at hskip; cases hskip
        | other => rw [hkind] at hskip; cases hskip
      rw [List.takeWhile_cons_of_pos hdigit]
      exact List.cons_ne_nil _ _
  let m : Numeral := ⟨leadingBlanks s, _, hdigits,
    fun c hc => mem_digitChars_iff.mpr (List.mem_takeWhile_imp hc)⟩
  have hs : s = m.text ++ (skipBlanks s).dropWhile Char.isDigit := by
    rw [Numeral.text, List.append_assoc, List.takeWhile_append_dropWhile, hsplit]
  refine ⟨m, _, hs, Parser.ends_dropWhile_isDigit _, ?_⟩
  rw [hs, Phase.run_append_of_eq (passed_numeral m)] at hrun
  exact hrun

/-- A text that can be gone over, with no number due at its end, is a sentence. -/
theorem isSentence_of_run {s : List Char} {phase : Phase}
    (hrun : Phase.numberDue.run s = some phase) (hphase : phase ≠ .numberDue) : IsSentence s := by
  obtain ⟨m, rest, rfl, hends, hrest⟩ := exists_numeral_of_run hrun hphase
  have hsplit := leadingBlanks_append_skipBlanks rest
  rcases hs : skipBlanks rest with _ | ⟨c, behind⟩
  · rw [hs, List.append_nil] at hsplit
    refine ⟨⟨⟨⟨m, []⟩, []⟩, leadingBlanks rest⟩, ?_⟩
    simp [Sentence.text, Chain.text, hsplit]
  · obtain ⟨reached, _, hblanks, hafter⟩ := Phase.exists_run_leadingBlanks hends.no_digit hs
    rw [← hsplit, Phase.run_append_of_eq hblanks, hs, Phase.run, hafter] at hrest
    split at hrest
    · next hop =>
      obtain ⟨op, rfl⟩ := mem_operatorChars_iff.mp hop
      have hshorter : behind.length < (m.text ++ rest).length := by
        rw [← hsplit, hs]
        simp only [List.length_append, List.length_cons]
        omega
      rw [← hsplit, hs]
      exact isSentence_append m _ op (isSentence_of_run hrest hphase)
    · cases hrest
termination_by s.length

/-! ## Deciding -/

theorem isSentence_iff {s : List Char} :
    IsSentence s ↔ ∃ phase, Phase.numberDue.run s = some phase ∧ phase ≠ .numberDue := by
  constructor
  · rintro ⟨d, rfl⟩
    exact d.exists_run_text
  · rintro ⟨phase, hrun, hphase⟩
    exact isSentence_of_run hrun hphase

/-- **A text is viable exactly if it can be gone over.** Where a number is due at its end, a single
digit makes it a sentence, and otherwise it is one. -/
theorem viable_iff {s : List Char} :
    Viable s ↔ ∃ phase, Phase.numberDue.run s = some phase := by
  constructor
  · rintro ⟨d, rest, hd⟩
    obtain ⟨phase, hrun, _⟩ := d.exists_run_text
    rw [← hd, Phase.run_append] at hrun
    obtain ⟨reached, hreached, _⟩ := Option.bind_eq_some_iff.mp hrun
    exact ⟨reached, hreached⟩
  · rintro ⟨phase, hrun⟩
    by_cases hphase : phase = .numberDue
    · subst hphase
      have hdigit : Phase.numberDue.run (s ++ ['0']) = some .withinNumber := by
        rw [Phase.run_append_of_eq hrun]
        rfl
      obtain ⟨d, hd⟩ := isSentence_of_run hdigit (by decide)
      exact ⟨d, ['0'], hd.symm⟩
    · obtain ⟨d, hd⟩ := isSentence_of_run hrun hphase
      exact ⟨d, [], by rw [List.append_nil, hd]⟩

instance (s : List Char) : Decidable (IsSentence s) :=
  decidable_of_iff (∃ phase ∈ Phase.numberDue.run s, phase ≠ .numberDue) isSentence_iff.symm

instance (s : List Char) : Decidable (Viable s) :=
  decidable_of_iff ((Phase.numberDue.run s).isSome = true) (by
    rw [viable_iff, Option.isSome_iff_exists])

example : Viable ['1', ' ', '*'] ∧ ¬ IsSentence ['1', ' ', '*'] ∧ ¬ Viable ['1', ' ', '2'] := by
  decide

end Grammar

end Reckoner
