import Reckoner.Proofs.ReaderStops

/-!
# The place of an error

An error gives a row and a column, and the rest of the text from there on. The two say the same: a
place belongs to one offset of the text only, so it can be told from the row and the column where
the rest begins. This is because going on in a text makes the row greater or, as long as no line
feed comes, the column (`Position.eq_nil_of_after_append`).

The place is also the right one, in two ways. What stands there fits the reason that is given
(`Reason.Fits`). And a fault of syntax is reported as early as possible: up to the place the text is
the beginning of some sentence, and with one more character it is not. Both are read off from what a
stop entails, `StopsAt`, the second by way of `viable_iff`: where the reader finds no number or has
input left over, no phase of a sentence goes on with the next character.
-/

namespace Reckoner

open Grammar

/-! ## Rows and columns -/

/-- The last row of a text: what follows the last line feed, or everything if there is none. -/
def IsLastRow (read row : List Char) : Prop :=
  '\n' ∉ row ∧ (read = row ∨ ∃ earlier, read = earlier ++ '\n' :: row)

/-- An offset of a text lies in this row and column. Both count from one. -/
def HasPlace (text : List Char) (offset : Nat) (line column : Int) : Prop :=
  line = 1 + (text.take offset).count '\n'
    ∧ ∃ row, IsLastRow (text.take offset) row ∧ column = 1 + row.length

theorem takeWhile_reverse_of_no_newline {row : List Char} (hrow : '\n' ∉ row) (s : List Char) :
    (row.reverse ++ s).takeWhile (· ≠ '\n') = row.reverse ++ s.takeWhile (· ≠ '\n') := by
  refine List.takeWhile_append_of_pos fun c hc => ?_
  have hne : c ≠ '\n' := by
    rintro rfl
    exact hrow (List.mem_reverse.mp hc)
  exact decide_eq_true hne

theorem IsLastRow.column_eq {read row : List Char} (h : IsLastRow read row) :
    (Position.after read).column = 1 + row.length := by
  obtain ⟨hrow, rfl | ⟨earlier, rfl⟩⟩ := h
  · have htake := takeWhile_reverse_of_no_newline hrow []
    rw [List.append_nil, List.takeWhile_nil, List.append_nil] at htake
    rw [Position.after, htake, List.length_reverse]
  · have hreverse : (earlier ++ '\n' :: row).reverse = row.reverse ++ '\n' :: earlier.reverse := by
      simp
    have hstop : ('\n' :: earlier.reverse).takeWhile (· ≠ '\n') = [] :=
      List.takeWhile_cons_of_neg (by decide)
    rw [Position.after, hreverse, takeWhile_reverse_of_no_newline hrow, hstop, List.append_nil,
      List.length_reverse]

theorem exists_isLastRow (read : List Char) : ∃ row, IsLastRow read row := by
  induction read using List.reverseRecOn with
  | nil => exact ⟨[], List.not_mem_nil, Or.inl rfl⟩
  | append_singleton read c ih =>
    by_cases hc : c = '\n'
    · exact ⟨[], List.not_mem_nil, Or.inr ⟨read, by rw [hc]⟩⟩
    · obtain ⟨row, hrow, hread⟩ := ih
      refine ⟨row ++ [c], ?_, ?_⟩
      · rw [List.mem_append, List.mem_singleton]
        rintro (hmem | hmem)
        · exact hrow hmem
        · exact hc hmem.symm
      · rcases hread with rfl | ⟨earlier, rfl⟩
        · exact Or.inl rfl
        · exact Or.inr ⟨earlier, by rw [List.append_assoc, List.cons_append]⟩

theorem hasPlace_iff {text : List Char} {offset : Nat} {line column : Int} :
    HasPlace text offset line column
      ↔ line = (Position.after (text.take offset)).line
        ∧ column = (Position.after (text.take offset)).column := by
  have hline : ((Position.after (text.take offset)).line : Int)
      = 1 + (text.take offset).count '\n' := by
    rw [Position.after, Nat.cast_add, Nat.cast_one]
  rw [HasPlace, hline]
  refine and_congr_right fun _ => ?_
  constructor
  · rintro ⟨row, hrow, rfl⟩
    rw [hrow.column_eq, Nat.cast_add, Nat.cast_one]
  · rintro rfl
    obtain ⟨row, hrow⟩ := exists_isLastRow (text.take offset)
    exact ⟨row, hrow, by rw [hrow.column_eq, Nat.cast_add, Nat.cast_one]⟩

/-- Going on in a text changes the place: a line feed makes the row greater, and anything else
without one makes the column greater. -/
theorem Position.eq_nil_of_after_append {read more : List Char}
    (h : Position.after (read ++ more) = Position.after read) : more = [] := by
  have hline := congrArg Position.line h
  have hcolumn := congrArg Position.column h
  dsimp only [Position.after] at hline hcolumn
  rw [List.count_append] at hline
  have hrow : '\n' ∉ more := by
    intro hmem
    have hpos := List.count_pos_iff.mpr hmem
    omega
  rw [List.reverse_append, takeWhile_reverse_of_no_newline hrow, List.length_append,
    List.length_reverse] at hcolumn
  have hzero : more.length = 0 := by omega
  exact List.eq_nil_of_length_eq_zero hzero

/-- **A place belongs to one offset only.** -/
theorem HasPlace.offset_unique {text : List Char} {line column : Int} {p q : Nat}
    (hp : HasPlace text p line column) (hq : HasPlace text q line column)
    (hplen : p ≤ text.length) (hqlen : q ≤ text.length) : p = q := by
  have hafter : Position.after (text.take p) = Position.after (text.take q) := by
    obtain ⟨hpline, hpcolumn⟩ := hasPlace_iff.mp hp
    obtain ⟨hqline, hqcolumn⟩ := hasPlace_iff.mp hq
    have hline := Int.ofNat.inj (hpline.symm.trans hqline)
    have hcolumn := Int.ofNat.inj (hpcolumn.symm.trans hqcolumn)
    rw [Position.mk.injEq]
    exact ⟨hline, hcolumn⟩
  -- Of two offsets the text up to the greater one goes on where the text up to the other one ends.
  have hordered : ∀ {p q : Nat}, p ≤ q → q ≤ text.length →
      Position.after (text.take q) = Position.after (text.take p) → p = q := by
    intro p q hle hqlen h
    have hsplit : text.take q = text.take p ++ (text.take q).drop p := by
      conv_lhs => rw [← List.take_append_drop p (text.take q)]
      rw [List.take_take, Nat.min_eq_left hle]
    rw [hsplit] at h
    have hnil := congrArg List.length (Position.eq_nil_of_after_append h)
    rw [List.length_drop, List.length_take, List.length_nil] at hnil
    omega
  rcases Nat.le_total p q with hle | hle
  · exact hordered hle hqlen hafter.symm
  · exact (hordered hle hplen hafter).symm

/-! ## What stands at the place -/

/-- Digits between two texts that go on to neither side. -/
structure Grammar.DigitRun (before digits behind : List Char) : Prop where
  ne_nil : digits ≠ []
  all_digit : ∀ c ∈ digits, c ∈ digitChars
  not_before : ∀ c ∈ before.getLast?, c ∉ digitChars
  not_behind : ∀ c ∈ behind.head?, c ∉ digitChars

namespace Parser

/-- What stands at the place of an error, and before it, fits the reason. -/
def Reason.Fits (read rest : List Char) : Reason → Prop
  | numberExpected => ∀ c ∈ rest.head?, c ∉ blankChars ∧ c ∉ digitChars
  | literalOutOfRange => ∃ digits behind, rest = digits ++ behind ∧ DigitRun read digits behind
      ∧ Word.greatest < Text.ofDigits digits
  | trailingInput => ∃ c ∈ rest.head?, c ∉ blankChars ∧ c ∉ operatorChars
  | tooDeep _ => ∃ c ∈ rest.head?, c ∈ operatorChars

theorem StopsAt.fits {bound : Int} {phase : Phase} {operators : Nat} {read : List Char}
    {stop : Stop} (h : StopsAt bound phase operators read stop) :
    stop.reason.Fits read stop.rest := by
  cases h with
  | numberExpected hread hrest =>
    intro c hc
    rw [← Kind.of_eq_blank_iff, ← Kind.of_eq_digit_iff]
    have hnone := hrest c hc
    constructor <;> intro hkind <;> rw [hkind] at hnone <;> cases hnone
  | literalOutOfRange hread hne hdigits hrest hbig =>
    exact ⟨_, _, rfl, ⟨hne, hdigits, Phase.getLast?_of_run hread, hrest⟩, hbig⟩
  | @trailingInput reached c rest hread hreached hrest =>
    refine ⟨c, rfl, ?_⟩
    rw [← Kind.of_eq_blank_iff, ← Kind.of_eq_operator_iff]
    constructor
    · intro hkind
      rw [hkind] at hrest
      exact reached.after_blank_ne_none hrest
    · intro hkind
      rw [hkind, Phase.after_operator hreached] at hrest
      cases hrest
  | @tooDeep reached op rest hread hreached hdeep =>
    exact ⟨_, rfl, mem_operatorChars_iff.mpr ⟨op, rfl⟩⟩

/-- **An error names the offset it was found at, and what stands there fits the reason.** The rest
that an error shows is the text from the offset on. Its row and column are those of the offset, and
of no other one. There are four reasons, and the rest begins as the reason says. -/
theorem error_identifies_offset {bound : Int} {text : String} {e : SyntaxError}
    (h : parse bound text = .error e) :
    e.offset text ≤ text.length
      ∧ e.fragment.toList = text.toList.drop (e.offset text)
      ∧ HasPlace text.toList (e.offset text) e.line e.column
      ∧ (∀ q ≤ text.length, HasPlace text.toList q e.line e.column → q = e.offset text)
      ∧ (∃ reason ∈ [.numberExpected, .literalOutOfRange, .trailingInput, .tooDeep bound],
          e.reason = Reason.text reason)
      ∧ ∀ reason : Reason, e.reason = reason.text →
          reason.Fits (text.toList.take (e.offset text)) e.fragment.toList := by
  obtain ⟨stop, read, _, hreports, hstop⟩ := exists_reports_of_parse h
  have htake : text.toList.take (e.offset text) = read := by
    rw [hreports.offset, hreports.toList_text, List.take_left]
  have hplace : HasPlace text.toList (e.offset text) e.line e.column := by
    rw [hasPlace_iff, htake]
    exact ⟨hreports.line, hreports.column⟩
  have hlength : e.offset text ≤ text.toList.length := by
    rw [hreports.offset, hreports.toList_text, List.length_append]
    exact Nat.le_add_right _ _
  refine ⟨hlength, ?_, hplace, fun q hq hqplace => hqplace.offset_unique hplace hq hlength, ?_, ?_⟩
  · rw [hreports.offset, hreports.toList_text, List.drop_left, hreports.fragment]
  · refine ⟨stop.reason, ?_, hreports.reason⟩
    cases hstop <;> simp
  · intro reason hreason
    rw [htake, hreports.fragment]
    have hfits := hstop.fits
    rcases Reason.text_eq_cases (hreason.symm.trans hreports.reason) with rfl | ⟨b, b', rfl, hdeep⟩
    · exact hfits
    · rw [hdeep] at hfits
      exact hfits

/-- A literal that is out of range, in the second row of the text. -/
theorem error_identifies_offset_at_second_row :
    parse 5 "1+2\n * 0099999999999999999999 "
        = .error ⟨"integer literal out of range", 2, 4, "0099999999999999999999 "⟩
      ∧ ∀ q ≤ 30, HasPlace "1+2\n * 0099999999999999999999 ".toList q 2 4 → q = 7 := by
  have h : parse 5 "1+2\n * 0099999999999999999999 "
      = .error ⟨"integer literal out of range", 2, 4, "0099999999999999999999 "⟩ := by
    decide +kernel
  exact ⟨h, (error_identifies_offset h).2.2.2.1⟩

/-! ## The earliest place -/

/-- Where no number is found or input is left over, no sentence begins with what was read and one
more character. Input is left over exactly behind a sentence. -/
theorem StopsAt.earliest {bound : Int} {operators : Nat} {read : List Char} {stop : Stop}
    (h : StopsAt bound .numberDue operators read stop)
    (hreason : stop.reason = .numberExpected ∨ stop.reason = .trailingInput) :
    Viable read
      ∧ (∀ c rest, stop.rest = c :: rest → ¬ Viable (read ++ [c]))
      ∧ (stop.rest = [] → ¬ IsSentence read)
      ∧ (stop.reason = .trailingInput ↔ IsSentence read) := by
  cases h with
  | @numberExpected rest hread hrest =>
    have hopen : ¬ IsSentence read := by
      rw [isSentence_iff, hread]
      rintro ⟨phase, hphase, hne⟩
      exact hne (Option.some.inj hphase).symm
    refine ⟨viable_iff.mpr ⟨_, hread⟩, ?_, fun _ => hopen, ?_⟩
    · rintro c rest rfl
      rw [viable_iff, Phase.run_append_of_eq hread, Phase.run, hrest c rfl]
      rintro ⟨phase, hphase⟩
      cases hphase
    · refine ⟨?_, fun hsentence => absurd hsentence hopen⟩
      intro heq
      cases heq
  | @trailingInput reached c rest hread hreached hrest =>
    refine ⟨viable_iff.mpr ⟨_, hread⟩, ?_, fun hnil => absurd hnil (List.cons_ne_nil _ _), ?_⟩
    · rintro c' rest' heq
      cases heq
      rw [viable_iff, Phase.run_append_of_eq hread, Phase.run, hrest]
      rintro ⟨phase, hphase⟩
      cases hphase
    · exact ⟨fun _ => isSentence_iff.mpr ⟨reached, hread, hreached⟩, fun _ => rfl⟩
  | literalOutOfRange => rcases hreason with heq | heq <;> cases heq
  | tooDeep => rcases hreason with heq | heq <;> cases heq

/-- A text whose numbers are in range and whose operators do not exceed the bound stops for its
form, if it stops. -/
theorem StopsAt.reason_of_harmless {bound : Int} {read : List Char} {stop : Stop}
    (h : StopsAt bound .numberDue (operatorCount (read ++ stop.rest)) read stop)
    (hruns : ∀ before digits behind, read ++ stop.rest = before ++ (digits ++ behind) →
      DigitRun before digits behind → (Text.ofDigits digits : Int) ≤ Word.greatest)
    (hdepth : (operatorCount (read ++ stop.rest) : Int) ≤ bound) :
    stop.reason = .numberExpected ∨ stop.reason = .trailingInput := by
  have hfits := h.fits
  cases h with
  | numberExpected => exact Or.inl rfl
  | trailingInput => exact Or.inr rfl
  | literalOutOfRange =>
    obtain ⟨digits, behind, hrest, hrun, hbig⟩ := hfits
    have hsmall := hruns read digits behind (by rw [hrest]) hrun
    omega
  | tooDeep _ _ hdeep => omega

/-- **A fault of form is reported as early as possible.** Where a number is missing or input is left
over, the text up to the offset is the beginning of some sentence, with the next character it is
not, and if there is no next character the text is no sentence; input is left over exactly if a
sentence stands before it. And these two are the reasons why a text is refused that is no sentence,
unless a run of digits is out of range or there are more operators than the bound allows for. -/
theorem fault_reported_earliest (bound : Int) (text : String) :
    (∀ e : SyntaxError, parse bound text = .error e →
        e.reason = Reason.numberExpected.text ∨ e.reason = Reason.trailingInput.text →
        Viable (text.toList.take (e.offset text))
          ∧ (e.offset text < text.length → ¬ Viable (text.toList.take (e.offset text + 1)))
          ∧ (e.offset text = text.length → Viable text.toList ∧ ¬ IsSentence text.toList)
          ∧ (e.reason = Reason.trailingInput.text
              ↔ IsSentence (text.toList.take (e.offset text))))
      ∧ (¬ IsSentence text.toList →
          (∀ before digits behind, text.toList = before ++ (digits ++ behind) →
            DigitRun before digits behind → (Text.ofDigits digits : Int) ≤ Word.greatest) →
          (operatorCount text.toList : Int) ≤ bound →
          ∃ e : SyntaxError, parse bound text = .error e
            ∧ (e.reason = Reason.numberExpected.text ∨ e.reason = Reason.trailingInput.text)) := by
  constructor
  · intro e he hreason
    obtain ⟨stop, read, _, hreports, hstop⟩ := exists_reports_of_parse he
    have hwording : ∀ reason : Reason, (∀ b, reason ≠ .tooDeep b) →
        (e.reason = reason.text ↔ stop.reason = reason) := by
      intro reason hshallow
      rw [hreports.reason]
      refine ⟨fun heq => ?_, fun heq => by rw [heq]⟩
      rcases Reason.text_eq_cases heq with heq | ⟨b, b', _, hdeep⟩
      · exact heq
      · exact absurd hdeep (hshallow b')
    rw [hwording .numberExpected (by simp), hwording .trailingInput (by simp)] at hreason
    obtain ⟨hviable, hnext, hend, htrailing⟩ := hstop.earliest hreason
    rw [hwording .trailingInput (by simp), hreports.offset, hreports.toList_text, List.take_left,
      ← String.length_toList, hreports.toList_text, List.length_append]
    refine ⟨hviable, ?_, ?_, htrailing⟩
    · intro hlt
      rcases hrest : stop.rest with _ | ⟨c, rest⟩
      · rw [hrest, List.length_nil] at hlt
        omega
      · have htake : (read ++ c :: rest).take (read.length + 1) = read ++ [c] := by
          rw [List.take_append, Nat.add_sub_cancel_left, List.take_of_length_le (by omega)]
          rfl
        rw [htake]
        exact hnext c rest hrest
    · intro heq
      have hnil : stop.rest = [] := List.eq_nil_of_length_eq_zero (by omega)
      rw [hnil, List.append_nil]
      exact ⟨hviable, hend hnil⟩
  · intro hsentence hruns hdepth
    rcases hparse : parse bound text with e | t
    · obtain ⟨stop, read, _, hreports, hstop⟩ := exists_reports_of_parse hparse
      rw [hreports.toList_text] at hruns hdepth hstop
      refine ⟨e, rfl, ?_⟩
      rw [hreports.reason]
      rcases hstop.reason_of_harmless hruns hdepth with heq | heq
      · exact Or.inl (by rw [heq])
      · exact Or.inr (by rw [heq])
    · obtain ⟨d, hd, _⟩ := parse_eq_ok_iff.mp hparse
      exact absurd ⟨d, hd⟩ hsentence

/-- An operator in the place of an operand. -/
theorem fault_reported_earliest_at_second_operator :
    parse 2 "1 + * 2" = .error ⟨"expected a number", 1, 5, "* 2"⟩
      ∧ Viable "1 + ".toList ∧ ¬ Viable "1 + *".toList
      ∧ ¬ IsSentence "1 + * 2".toList
      ∧ (∀ before digits behind, "1 + * 2".toList = before ++ (digits ++ behind) →
          DigitRun before digits behind → (Text.ofDigits digits : Int) ≤ Word.greatest)
      ∧ ∃ e : SyntaxError, parse 2 "1 + * 2" = .error e
          ∧ (e.reason = Reason.numberExpected.text ∨ e.reason = Reason.trailingInput.text) := by
  have hparse : parse 2 "1 + * 2" = .error ⟨"expected a number", 1, 5, "* 2"⟩ := by
    decide +kernel
  have hsentence : ¬ IsSentence "1 + * 2".toList := by decide
  have hruns : ∀ before digits behind, "1 + * 2".toList = before ++ (digits ++ behind) →
      DigitRun before digits behind → (Text.ofDigits digits : Int) ≤ Word.greatest := by
    intro before digits behind heq _
    have hpiece : digits = ("1 + * 2".toList.drop before.length).take digits.length := by
      rw [heq, List.drop_left, List.take_left]
    have hlength := congrArg List.length heq
    rw [List.length_append, List.length_append] at hlength
    have hall : ∀ i < 8, ∀ j < 8,
        (Text.ofDigits (("1 + * 2".toList.drop i).take j) : Int) ≤ Word.greatest := by decide
    rw [hpiece]
    exact hall _ (by simp at hlength; omega) _ (by simp at hlength; omega)
  obtain ⟨hviable, hnext, _⟩ := (fault_reported_earliest 2 "1 + * 2").1 _ hparse (Or.inl rfl)
  exact ⟨hparse, hviable, hnext (by decide), hsentence, hruns,
    (fault_reported_earliest 2 "1 + * 2").2 hsentence hruns (by decide)⟩

end Parser

end Reckoner
