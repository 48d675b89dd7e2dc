import Mathlib.Data.Nat.Digits.Defs
import Reckoner.Proofs.ErrorPlace

/-!
# Which digits are converted

A literal is accepted by its value and refused by its value, however long it is and however many
zeros it starts with; and yet the value of a long one is never computed. The parser drops the zeros
at the front, counts what is left, and has digits converted only if there are at most nineteen. That
the count is no more than a shortcut is `literal?_eq`. This file adds what the value is, by the
places of the decimal system (`decimalValue`), where the error lies, and which digits are converted.

A conversion leaves no trace in a result. But the parser takes a literal by asking for conversions
(`literalConverting`), and the runs that it hands over can be listed. Whatever it is told about
them, each has one to nineteen digits. So for the literal to come out right it is enough that the
answers about such runs are right (`Text.Converting.result_congr`).
-/

namespace Reckoner

/-! ## The value by places -/

namespace Grammar

/-- The number that digits denote: the last one counts once, and each one before it ten times as
much as the next. A digit is known by its place among the ten. -/
def decimalValue (digits : List Char) : Nat :=
  Nat.ofDigits 10 (digits.reverse.map (digitChars.idxOf ·))

theorem idxOf_digitChars {c : Char} (hc : c ∈ digitChars) :
    digitChars.idxOf c = c.toNat - '0'.toNat := by
  have hall : digitChars.all (fun c => digitChars.idxOf c == c.toNat - '0'.toNat) = true := by
    decide
  simpa using List.all_eq_true.mp hall c hc

theorem decimalValue_cons (c : Char) (digits : List Char) :
    decimalValue (c :: digits) = decimalValue digits + 10 ^ digits.length * digitChars.idxOf c := by
  simp only [decimalValue, List.reverse_cons, List.map_append, List.map_cons, List.map_nil,
    Nat.ofDigits_append, Nat.ofDigits_singleton, List.length_map, List.length_reverse]

/-- **Reading digits from the front gives their value by places.** -/
theorem ofDigits_eq_decimalValue {digits : List Char} (hall : ∀ c ∈ digits, c ∈ digitChars) :
    Text.ofDigits digits = decimalValue digits := by
  induction digits with
  | nil => rfl
  | cons c digits ih =>
    obtain ⟨hc, hdigits⟩ := List.forall_mem_cons.mp hall
    -- What has been read when the rest begins is shifted by as many places as the rest has digits.
    rw [decimalValue_cons, ← ih hdigits, idxOf_digitChars hc, Text.ofDigits, Text.ofDigits,
      Nat.ofDigitChars_cons, Nat.ofDigitChars_eq_ofDigitChars_zero, Nat.mul_zero, Nat.zero_add,
      Nat.add_comm]

theorem Numeral.value_eq_decimalValue (m : Numeral) : m.value = decimalValue m.digits :=
  ofDigits_eq_decimalValue m.all_digit

end Grammar

open Grammar

theorem Word.greatest_eq_pow : Word.greatest = (2 ^ 63 - 1 : Nat) := by decide

/-! ## Conversions -/

/-- **Only the answers that are asked for matter.** -/
theorem Text.Converting.result_congr {α : Type} {value value' : List Char → Nat}
    {x : Text.Converting α} (h : ∀ run ∈ x.converted value, value' run = value run) :
    x.result value' = x.result value := by
  induction x with
  | done r => rfl
  | convert run next ih =>
    obtain ⟨hrun, hnext⟩ := List.forall_mem_cons.mp h
    rw [result, result, hrun]
    exact ih _ hnext

namespace Parser

/-- The digits that count are the only run that is ever handed over, and only if they are few. -/
theorem eq_significant_of_mem_converted {digits run : List Char} {value : List Char → Nat}
    (h : run ∈ (literalConverting digits).converted value) :
    run = significant digits ∧ run.length ≤ Word.maxDigits := by
  rw [literalConverting] at h
  by_cases hlong : Word.maxDigits < (significant digits).length
  · rw [if_pos hlong] at h
    cases h
  · have hrun : run = significant digits := by
      rw [if_neg hlong, Text.Converting.converted] at h
      rcases List.mem_cons.mp h with hfirst | hsecond
      · exact hfirst
      · split at hsecond
        · cases hsecond
        · exact List.mem_singleton.mp hsecond
    rw [hrun]
    exact ⟨rfl, Nat.le_of_not_lt hlong⟩

/-- They are handed over unless they are too many. -/
theorem converted_eq_nil_iff {digits : List Char} {value : List Char → Nat} :
    (literalConverting digits).converted value = []
      ↔ Word.maxDigits < (digits.dropWhile (· = '0')).length := by
  rw [literalConverting, ← maxDigits_lt_length_significant]
  by_cases hlong : Word.maxDigits < (significant digits).length
  · simp [hlong, Text.Converting.converted]
  · simp [hlong, Text.Converting.converted]

/-- **Answers that are right about one to nineteen digits are enough.** -/
theorem result_literalConverting {digits : List Char} {value : List Char → Nat}
    (hall : ∀ c ∈ digits, c ∈ digitChars)
    (hright : ∀ run, run ≠ [] → (∀ c ∈ run, c ∈ digitChars) → run.length ≤ Word.maxDigits →
      value run = decimalValue run) :
    (literalConverting digits).result value = literal? digits := by
  refine Text.Converting.result_congr fun run h => ?_
  obtain ⟨rfl, hshort⟩ := eq_significant_of_mem_converted h
  have hdigits : ∀ c ∈ significant digits, c ∈ digitChars := by
    intro c hc
    rw [mem_digitChars_iff]
    exact isDigit_of_mem_significant (fun c hc => mem_digitChars_iff.mp (hall c hc)) hc
  rw [hright _ (significant_ne_nil digits) hdigits hshort, ofDigits_eq_decimalValue hdigits]

/-! ## The error of a literal -/

/-- An error about a literal out of range whose first digit stands at this offset of the text. Zeros
at the front of the literal are among its digits, and the error shows them. -/
structure OutOfRangeAt (text : List Char) (offset : Nat) (e : SyntaxError) : Prop where
  reason : e.reason = "integer literal out of range"
  place : HasPlace text offset e.line e.column
  fragment : e.fragment.toList = text.drop offset

theorem outOfRangeAt_ofStop (read rest : List Char) :
    OutOfRangeAt (read ++ rest) read.length
      (.ofStop (read ++ rest) ⟨.literalOutOfRange, rest⟩) := by
  have hreports : Reports (String.ofList (read ++ rest)) read ⟨.literalOutOfRange, rest⟩ _ :=
    reports_ofStop String.toList_ofList
  rw [String.toList_ofList] at hreports
  refine ⟨hreports.reason, ?_, ?_⟩
  · rw [hasPlace_iff, List.take_left]
    exact ⟨hreports.line, hreports.column⟩
  · rw [List.drop_left]
    exact hreports.fragment

/-- The error of a literal lies behind what was read before and behind its blanks. -/
theorem outOfRangeAt_numeral (before : List Char) (m : Numeral) (behind : List Char) :
    OutOfRangeAt (before ++ (m.text ++ behind)) (before ++ m.blanks.chars).length
      (.ofStop (before ++ (m.text ++ behind)) ⟨.literalOutOfRange, m.digits ++ behind⟩) := by
  have hsplit : before ++ (m.text ++ behind)
      = (before ++ m.blanks.chars) ++ (m.digits ++ behind) := by
    rw [Numeral.text, List.append_assoc, List.append_assoc]
  rw [hsplit]
  exact outOfRangeAt_ofStop _ _

/-! ## Literals by value -/

theorem number_of_decimalValue_le (m : Numeral) {rest : List Char}
    (hrest : ∀ c ∈ rest.head?, c.isDigit = false) (hle : decimalValue m.digits ≤ 2 ^ 63 - 1) :
    number (m.text ++ rest) = .ok (decimalValue m.digits, rest) := by
  rw [number_text_append m hrest, m.value_eq_decimalValue, Word.greatest_eq_pow, if_neg (by omega)]

theorem number_of_lt_decimalValue (m : Numeral) {rest : List Char}
    (hrest : ∀ c ∈ rest.head?, c.isDigit = false) (hlt : 2 ^ 63 - 1 < decimalValue m.digits) :
    number (m.text ++ rest) = .error ⟨.literalOutOfRange, m.digits ++ rest⟩ := by
  rw [number_text_append m hrest, m.value_eq_decimalValue, Word.greatest_eq_pow, if_pos (by omega)]

/-- A literal alone is a sentence, and its tree has no operator that a bound could refuse. -/
theorem parse_numeral_of_le (bound : Int) (m : Numeral) (hle : decimalValue m.digits ≤ 2 ^ 63 - 1) :
    parse bound (String.ofList m.text) = .ok (.number (decimalValue m.digits)) := by
  let d : Sentence := ⟨⟨⟨m, []⟩, []⟩, ⟨[], List.forall_mem_nil _⟩⟩
  refine parse_eq_ok_iff.mpr ⟨d, ?_, ⟨?_, Or.inl ⟨m.value, rfl⟩⟩, ?_⟩
  · simp [d, Sentence.text, Chain.text]
  · intro m' hm'
    have hone : m' = m := by simpa [d, Sentence.numerals, Chain.operands] using hm'
    rw [hone, m.value_eq_decimalValue, Word.greatest_eq_pow]
    omega
  · rw [← m.value_eq_decimalValue]
    rfl

theorem parse_numeral_of_lt (bound : Int) (m : Numeral) (hlt : 2 ^ 63 - 1 < decimalValue m.digits) :
    parse bound (String.ofList m.text)
      = .error (.ofStop m.text ⟨.literalOutOfRange, m.digits⟩) := by
  have hnumber : number (m.text ++ []) = .error ⟨.literalOutOfRange, m.digits ++ []⟩ :=
    number_of_lt_decimalValue m (by simp) hlt
  rw [List.append_nil, List.append_nil] at hnumber
  rw [parse, String.toList_ofList, parseChars, expression, term, hnumber]

/-- **A literal is accepted by its value, and converted only if it is short.** Let digits stand in a
text, anywhere, with blanks before them and no further digit behind. If they denote at most the
greatest word, then that number is read and the digits are consumed, all of them and nothing more;
otherwise there is an error at the first digit, a zero or not. Digits alone are parsed to a number,
or to that error, under every bound. No run of more than nineteen digits is ever converted, whatever
the digits are and whatever the conversions answer; the only digits to go unconverted are those of
which more than nineteen count; and a literal comes out right if the answers about one to nineteen
digits are right. -/
theorem number_accepts_by_value :
    (∀ (before : List Char) (m : Numeral) (behind : List Char),
        (∀ c ∈ behind.head?, c ∉ digitChars) →
        (decimalValue m.digits ≤ 2 ^ 63 - 1 →
            number (m.text ++ behind) = .ok (decimalValue m.digits, behind))
          ∧ (2 ^ 63 - 1 < decimalValue m.digits →
            ∃ stop, number (m.text ++ behind) = .error stop
              ∧ OutOfRangeAt (before ++ (m.text ++ behind)) (before ++ m.blanks.chars).length
                  (.ofStop (before ++ (m.text ++ behind)) stop)))
      ∧ (∀ (bound : Int) (m : Numeral),
          (decimalValue m.digits ≤ 2 ^ 63 - 1 →
              parse bound (String.ofList m.text) = .ok (.number (decimalValue m.digits)))
            ∧ (2 ^ 63 - 1 < decimalValue m.digits →
              ∃ e, parse bound (String.ofList m.text) = .error e
                ∧ OutOfRangeAt m.text m.blanks.chars.length e))
      ∧ (∀ (digits : List Char) (value : List Char → Nat),
          (∀ run ∈ (literalConverting digits).converted value, run.length ≤ 19)
            ∧ ((literalConverting digits).converted value = []
              ↔ 19 < (digits.dropWhile (· = '0')).length))
      ∧ ∀ (m : Numeral) (value : List Char → Nat),
          (∀ run, run ≠ [] → (∀ c ∈ run, c ∈ digitChars) → run.length ≤ 19 →
            value run = decimalValue run) →
          (literalConverting m.digits).result value = literal? m.digits := by
  refine ⟨?_, ?_, ?_, ?_⟩
  · intro before m behind hbehind
    have hrest : ∀ c ∈ behind.head?, c.isDigit = false := by
      intro c hc
      simpa [mem_digitChars_iff] using hbehind c hc
    refine ⟨number_of_decimalValue_le m hrest, ?_⟩
    intro hlt
    exact ⟨_, number_of_lt_decimalValue m hrest hlt, outOfRangeAt_numeral before m behind⟩
  · intro bound m
    refine ⟨parse_numeral_of_le bound m, ?_⟩
    intro hlt
    exact ⟨_, parse_numeral_of_lt bound m hlt, by simpa using outOfRangeAt_numeral [] m []⟩
  · intro digits value
    exact ⟨fun run h => (eq_significant_of_mem_converted h).2, converted_eq_nil_iff⟩
  · intro m value hright
    exact result_literalConverting m.all_digit hright

/-- The digits of the greatest word but for the last one, with a blank and zeros in front. -/
def borderNumeral (last : Fin 10) : Numeral where
  blanks := ⟨[' '], List.forall_mem_singleton.mpr (by decide)⟩
  digits := "000922337203685477580".toList ++ [last.val.digitChar]
  digits_ne_nil := by simp
  all_digit := by
    have hfront : "000922337203685477580".toList.all (· ∈ digitChars) = true := by decide
    have hlast : last.val.digitChar ∈ digitChars := by revert last; decide
    rw [List.forall_mem_append, List.forall_mem_singleton]
    exact ⟨fun c hc => of_decide_eq_true (List.all_eq_true.mp hfront c hc), hlast⟩

/-- A conversion that is right about short runs only. -/
def shortValue (run : List Char) : Nat := if run.length ≤ 19 then decimalValue run else 0

/-- The greatest word and its successor, both with zeros in front, in the second row of a text. -/
theorem number_accepts_by_value_at_border :
    (∀ c ∈ "*2".toList.head?, c ∉ digitChars)
      ∧ decimalValue (borderNumeral 7).digits ≤ 2 ^ 63 - 1
      ∧ number ((borderNumeral 7).text ++ "*2".toList) = .ok (2 ^ 63 - 1, "*2".toList)
      ∧ 2 ^ 63 - 1 < decimalValue (borderNumeral 8).digits
      ∧ (∃ stop, number ((borderNumeral 8).text ++ "*2".toList) = .error stop
          ∧ OutOfRangeAt ("1+\n".toList ++ ((borderNumeral 8).text ++ "*2".toList)) 4
              (.ofStop ("1+\n".toList ++ ((borderNumeral 8).text ++ "*2".toList)) stop))
      ∧ (∀ run, run ≠ [] → (∀ c ∈ run, c ∈ digitChars) → run.length ≤ 19 →
          shortValue run = decimalValue run)
      ∧ (literalConverting (borderNumeral 8).digits).result shortValue
          = literal? (borderNumeral 8).digits := by
  have hbehind : ∀ c ∈ "*2".toList.head?, c ∉ digitChars := by simp [digitChars]
  have hborder : decimalValue (borderNumeral 7).digits = 2 ^ 63 - 1 := by decide +kernel
  have hbeyond : 2 ^ 63 - 1 < decimalValue (borderNumeral 8).digits := by decide +kernel
  have hread := (number_accepts_by_value.1 [] (borderNumeral 7) _ hbehind).1 hborder.le
  rw [hborder] at hread
  have hshort : ∀ run, run ≠ [] → (∀ c ∈ run, c ∈ digitChars) → run.length ≤ 19 →
      shortValue run = decimalValue run := fun run _ _ hle => if_pos hle
  exact ⟨hbehind, hborder.le, hread, hbeyond,
    (number_accepts_by_value.1 "1+\n".toList (borderNumeral 8) _ hbehind).2 hbeyond, hshort,
    number_accepts_by_value.2.2.2 _ _ hshort⟩

end Parser

end Reckoner
