import Reckoner.Proofs.ReaderStops

/-!
# Blanks do not matter

Blanks that are put into a text, anywhere but between two digits, change neither the tree that is
read nor the reason why none is; an error is reported at the same character as before, which may
have moved. Texts that are refused need an argument of their own here, since the grammar says
nothing about them: the two readings are compared step by step.

Think of the text as cut in two where the blanks go. Two rests that the two readings have reached at
the same time are either equal and lie behind the cut, or the second one is the first one with the
blanks put in (`Shifted`); exactly at the cut the blanks may have been skipped or not (`Spaced`).
Every part of the reader takes such rests to such rests, and to the same tree or the same reason
(`InStep`). A failure is always reported behind skipped blanks, so at the cut the second reading has
the blanks behind it.

That no digit stands on both sides of the cut is needed in one place only: a run of digits ends at
the cut with or without the blanks.
-/

namespace Reckoner

open Grammar

namespace Parser

/-- No digit of the one text meets a digit of the other when they are joined. -/
def Apart (front behind : List Char) : Prop :=
  ∀ c ∈ front.getLast?, ∀ c' ∈ behind.head?, ¬ (c ∈ digitChars ∧ c' ∈ digitChars)

/-- Rests at one and the same point of two texts, of which the second has `blanks` in front of
`behind`. -/
inductive Shifted (blanks : Blanks) (behind : List Char) : List Char → List Char → Prop
  /-- The blanks have been passed. -/
  | past {s : List Char} (hle : s.length ≤ behind.length) : Shifted blanks behind s s
  /-- Something is still to be read before the blanks. -/
  | ahead {front : List Char} (hne : front ≠ []) (hapart : Apart front behind) :
      Shifted blanks behind (front ++ behind) (front ++ (blanks.chars ++ behind))

/-- The same, but the blanks may also be next. -/
def Spaced (blanks : Blanks) (behind s s' : List Char) : Prop :=
  Shifted blanks behind s s' ∨ (s = behind ∧ s' = blanks.chars ++ behind)

section Rests

variable {blanks : Blanks} {behind : List Char}

theorem spaced_append (blanks : Blanks) {front : List Char} (hapart : Apart front behind) :
    Spaced blanks behind (front ++ behind) (front ++ (blanks.chars ++ behind)) := by
  rcases front with _ | ⟨c, front⟩
  · exact Or.inr ⟨rfl, rfl⟩
  · exact Or.inl (.ahead (List.cons_ne_nil _ _) hapart)

/-- What is left of a text when characters of a class have been dropped from its front ends as
before, if anything is left. -/
theorem Apart.dropWhile {front : List Char} (hapart : Apart front behind) (class? : Char → Bool) :
    Apart (front.dropWhile class?) behind := by
  intro c hc
  refine hapart c ?_
  rw [← List.takeWhile_append_dropWhile (p := class?) (l := front), List.getLast?_append,
    Option.mem_def.mp hc]
  rfl

/-- Behind skipped blanks the two texts go on with the same character. -/
theorem Spaced.skipBlanks {s s' : List Char} (h : Spaced blanks behind s s') :
    Shifted blanks behind (skipBlanks s) (skipBlanks s') := by
  have hpassed : Shifted blanks behind (Parser.skipBlanks behind)
      (Parser.skipBlanks (blanks.chars ++ behind)) := by
    rw [skipBlanks_blanks_append]
    exact .past (length_skipBlanks_le behind)
  rcases h with (hle | ⟨hne, hapart⟩) | ⟨rfl, rfl⟩
  · exact .past (Nat.le_trans (length_skipBlanks_le s) hle)
  · rename_i front
    by_cases hblank : front.dropWhile isBlank = []
    · have hall := List.dropWhile_eq_nil_iff.mp hblank
      rw [Parser.skipBlanks, Parser.skipBlanks, List.dropWhile_append_of_pos hall,
        List.dropWhile_append_of_pos hall]
      exact hpassed
    · rw [Parser.skipBlanks, Parser.skipBlanks, List.dropWhile_append,
        if_neg (by simpa using hblank), List.dropWhile_append, if_neg (by simpa using hblank)]
      exact .ahead hblank (hapart.dropWhile isBlank)
  · exact hpassed

theorem Shifted.eq_nil {s' : List Char} (h : Shifted blanks behind [] s') : s' = [] := by
  generalize hs : ([] : List Char) = s at h
  cases h with
  | past hle => rfl
  | ahead hne hapart => exact absurd (List.append_eq_nil_iff.mp hs.symm).1 hne

theorem Shifted.exists_cons {c : Char} {after s' : List Char}
    (h : Shifted blanks behind (c :: after) s') :
    ∃ after', s' = c :: after' ∧ Spaced blanks behind after after' := by
  generalize hs : c :: after = s at h
  cases h with
  | past hle =>
    subst hs
    exact ⟨after, rfl, Or.inl (.past (Nat.le_of_succ_le hle))⟩
  | @ahead front hne hapart =>
    obtain ⟨c', front, rfl⟩ := List.exists_cons_of_ne_nil hne
    cases hs
    refine ⟨_, rfl, spaced_append blanks ?_⟩
    intro d hd
    refine hapart d ?_
    rw [List.getLast?_cons, Option.mem_def.mp hd]
    rfl

/-- Where one text goes on with a character behind blanks, so does the other. -/
theorem Spaced.exists_cons {c : Char} {s s' after : List Char} (h : Spaced blanks behind s s')
    (hs : Parser.skipBlanks s = c :: after) :
    ∃ after', Parser.skipBlanks s' = c :: after' ∧ Shifted blanks behind (c :: after) (c :: after')
      ∧ Spaced blanks behind after after' := by
  have hskip := h.skipBlanks
  rw [hs] at hskip
  obtain ⟨after', hs', hafter⟩ := hskip.exists_cons
  rw [hs'] at hskip
  exact ⟨after', hs', hskip, hafter⟩

/-- The two texts have the same digits at their front. -/
theorem Shifted.digits {s s' : List Char} (h : Shifted blanks behind s s') :
    s'.takeWhile Char.isDigit = s.takeWhile Char.isDigit
      ∧ Spaced blanks behind (s.dropWhile Char.isDigit) (s'.dropWhile Char.isDigit) := by
  cases h with
  | past hle =>
    have hshorter : (s.dropWhile Char.isDigit).length ≤ s.length :=
      (List.dropWhile_sublist Char.isDigit).length_le
    exact ⟨rfl, Or.inl (.past (Nat.le_trans hshorter hle))⟩
  | @ahead front hne hapart =>
    by_cases hall : front.dropWhile Char.isDigit = []
    · -- The text before the cut is all digits, so no digit follows it.
      have hdigits := List.dropWhile_eq_nil_iff.mp hall
      have hbehind : ∀ c ∈ behind.head?, c.isDigit = false := by
        intro c hc
        have hlast := hapart _ (List.getLast?_eq_some_getLast hne) c hc
        rw [mem_digitChars_iff, mem_digitChars_iff] at hlast
        have hdigit := hdigits _ (List.getLast_mem hne)
        rcases hc' : c.isDigit
        · rfl
        · exact absurd ⟨hdigit, hc'⟩ hlast
      have hblanks : ∀ c ∈ (blanks.chars ++ behind).head?, c.isDigit = false := by
        intro c hc
        rcases hb : blanks.chars with _ | ⟨b, bs⟩
        · rw [hb] at hc
          exact hbehind c hc
        · rw [hb] at hc
          cases hc
          exact isDigit_of_isBlank (blanks.isBlank_of_mem (by rw [hb]; exact List.mem_cons_self))
      obtain ⟨htake, hdrop⟩ := takeWhile_digits_append hdigits hbehind
      obtain ⟨htake', hdrop'⟩ := takeWhile_digits_append hdigits hblanks
      rw [htake, htake', hdrop, hdrop']
      exact ⟨rfl, Or.inr ⟨rfl, rfl⟩⟩
    · have hne' : (front.takeWhile Char.isDigit).length ≠ front.length := by
        intro hlength
        have hsplit := congrArg List.length
          (List.takeWhile_append_dropWhile (p := Char.isDigit) (l := front))
        rw [List.length_append] at hsplit
        exact hall (List.eq_nil_of_length_eq_zero (by omega))
      rw [List.takeWhile_append, if_neg hne', List.takeWhile_append, if_neg hne',
        List.dropWhile_append, if_neg (by simpa using hall), List.dropWhile_append,
        if_neg (by simpa using hall)]
      exact ⟨rfl, spaced_append blanks (hapart.dropWhile Char.isDigit)⟩

end Rests

/-! ## Two readings in step -/

/-- Two readings that have the same outcome, up to the blanks. -/
inductive InStep (blanks : Blanks) (behind : List Char) :
    Except Stop Parsed → Except Stop Parsed → Prop
  | ok {tree : Expr} {height : Nat} {rest rest' : List Char}
      (hrest : Spaced blanks behind rest rest') :
      InStep blanks behind (.ok ⟨tree, height, rest⟩) (.ok ⟨tree, height, rest'⟩)
  | error {reason : Reason} {rest rest' : List Char} (hrest : Shifted blanks behind rest rest') :
      InStep blanks behind (.error ⟨reason, rest⟩) (.error ⟨reason, rest'⟩)

theorem InStep.exists_ok {blanks : Blanks} {behind : List Char} {p : Parsed}
    {outcome : Except Stop Parsed} (h : InStep blanks behind (.ok p) outcome) :
    ∃ rest', outcome = .ok ⟨p.tree, p.height, rest'⟩ ∧ Spaced blanks behind p.rest rest' := by
  cases h with
  | ok hrest => exact ⟨_, rfl, hrest⟩

theorem InStep.exists_error {blanks : Blanks} {behind : List Char} {stop : Stop}
    {outcome : Except Stop Parsed} (h : InStep blanks behind (.error stop) outcome) :
    ∃ rest', outcome = .error ⟨stop.reason, rest'⟩ ∧ Shifted blanks behind stop.rest rest' := by
  cases h with
  | error hrest => exact ⟨_, rfl, hrest⟩

/-- A reader that keeps two readings in step. -/
def Reader.KeepsStep (reader : Reader) (blanks : Blanks) (behind : List Char) : Prop :=
  ∀ ⦃s s' : List Char⦄, Spaced blanks behind s s' →
    InStep blanks behind (reader.read s) (reader.read s')

section Readers

variable {blanks : Blanks} {behind : List Char} {level : Level} {operand : Reader} {bound : Int}

theorem keepsStep_numeral : Reader.numeral.KeepsStep blanks behind := by
  intro s s' h
  have hskip := h.skipBlanks
  obtain ⟨htake, hdrop⟩ := hskip.digits
  rw [Reader.numeral]
  dsimp only
  rw [number, number, htake]
  rcases (skipBlanks s).takeWhile Char.isDigit with _ | ⟨digit, digits⟩
  · exact .error hskip
  · dsimp only
    rcases literal? (digit :: digits) with _ | n
    · exact .error hskip
    · exact .ok hdrop

theorem chainLoop_inStep (hoperand : operand.KeepsStep blanks behind) {left : Expr} {height : Nat}
    {s s' : List Char} (h : Spaced blanks behind s s') :
    InStep blanks behind (chainLoop level operand bound left height s)
      (chainLoop level operand bound left height s') := by
  fun_induction chainLoop level operand bound left height s generalizing s' with
  | case1 left height s hs =>
    have hskip := h.skipBlanks
    rw [hs] at hskip
    rw [chainLoop_of_nil hskip.eq_nil]
    exact .ok (Or.inl (.past (Nat.zero_le _)))
  | case2 left height s c after hs hop =>
    obtain ⟨after', hs', hshifted, _⟩ := h.exists_cons hs
    rw [chainLoop_of_none hs' hop]
    exact .ok (Or.inl hshifted)
  | case3 left height s c after hs op hop stop hr =>
    obtain ⟨after', hs', _, hafter⟩ := h.exists_cons hs
    have hstep := hoperand hafter
    rw [hr] at hstep
    obtain ⟨rest', hr', hrest⟩ := hstep.exists_error
    rw [chainLoop_of_some hs' hop, hr']
    exact .error hrest
  | case4 left height s c after hs op hop right hr hdeep =>
    -- The operand has been read in both texts, and the operator before it is what stops them.
    obtain ⟨after', hs', hshifted, hafter⟩ := h.exists_cons hs
    have hstep := hoperand hafter
    rw [hr] at hstep
    obtain ⟨rest', hr', _⟩ := hstep.exists_ok
    rw [chainLoop_of_some hs' hop, hr']
    dsimp only
    rw [if_pos hdeep]
    exact .error hshifted
  | case5 left height s c after hs op hop right hr hfits ih =>
    obtain ⟨after', hs', _, hafter⟩ := h.exists_cons hs
    have hstep := hoperand hafter
    rw [hr] at hstep
    obtain ⟨rest', hr', hrest⟩ := hstep.exists_ok
    rw [chainLoop_of_some hs' hop, hr']
    dsimp only
    rw [if_neg hfits]
    exact ih hrest

theorem Reader.KeepsStep.chain (hoperand : operand.KeepsStep blanks behind) :
    (Reader.chain level operand bound).KeepsStep blanks behind := by
  intro s s' h
  have hstep := hoperand h
  rw [Reader.read_chain, Reader.read_chain]
  rcases hr : operand.read s with stop | p
  · rw [hr] at hstep
    obtain ⟨rest', hr', hrest⟩ := hstep.exists_error
    rw [hr']
    exact .error hrest
  · rw [hr] at hstep
    obtain ⟨rest', hr', hrest⟩ := hstep.exists_ok
    rw [hr']
    exact chainLoop_inStep hoperand hrest

/-! ## Whole texts -/

theorem parseChars_of_spaced (bound : Int) {s s' : List Char} (h : Spaced blanks behind s s') :
    (∀ t, parseChars bound s = .ok t → parseChars bound s' = .ok t)
      ∧ ∀ stop, parseChars bound s = .error stop →
          ∃ rest', parseChars bound s' = .error ⟨stop.reason, rest'⟩
            ∧ Shifted blanks behind stop.rest rest' := by
  have hreader :
      (Reader.chain .lower (.chain .higher .numeral bound) bound).KeepsStep blanks behind :=
    keepsStep_numeral.chain.chain
  have hstep := hreader h
  rw [← expression_eq_read, ← expression_eq_read] at hstep
  rw [parseChars, parseChars]
  rcases hr : expression bound s with stop | p
  · rw [hr] at hstep
    obtain ⟨rest', hr', hrest⟩ := hstep.exists_error
    rw [hr']
    refine ⟨fun t ht => (by cases ht), ?_⟩
    intro stop' hstop
    cases hstop
    exact ⟨rest', rfl, hrest⟩
  · rw [hr] at hstep
    obtain ⟨rest', hr', hrest⟩ := hstep.exists_ok
    rw [hr']
    dsimp only
    rcases hs : skipBlanks p.rest with _ | ⟨c, after⟩
    · have hskip := hrest.skipBlanks
      rw [hs] at hskip
      rw [hskip.eq_nil]
      exact ⟨fun t ht => ht, fun stop hstop => (by cases hstop)⟩
    · obtain ⟨after', hs', hshifted, _⟩ := hrest.exists_cons hs
      rw [hs']
      refine ⟨fun t ht => (by cases ht), ?_⟩
      intro stop hstop
      cases hstop
      exact ⟨c :: after', rfl, hshifted⟩

end Readers

/-- A text with blanks put in at an offset. -/
def widened (text blanks : String) (i : Nat) : String :=
  String.ofList (text.toList.take i ++ (blanks.toList ++ text.toList.drop i))

/-- **Blanks do not matter, whether the text is read or refused.** Put into a text at an offset that
does not lie between two digits, they change neither the tree nor the reason for an error. An error
that is found at the offset or behind it is found as much later as the blanks are long, and one that
is found before stays where it is. -/
theorem blanks_insignificant {bound : Int} {text blanks : String} {i : Nat}
    (hblanks : ∀ c ∈ blanks.toList, c ∈ blankChars) (hi : i ≤ text.length)
    (hapart : Apart (text.toList.take i) (text.toList.drop i)) :
    (∀ t, parse bound text = .ok t → parse bound (widened text blanks i) = .ok t)
      ∧ ∀ e, parse bound text = .error e →
          ∃ e', parse bound (widened text blanks i) = .error e' ∧ e'.reason = e.reason
            ∧ e'.offset (widened text blanks i)
                = if i ≤ e.offset text then e.offset text + blanks.length else e.offset text := by
  have hwidened : (widened text blanks i).toList
      = text.toList.take i ++ (blanks.toList ++ text.toList.drop i) := String.toList_ofList
  have hspaced : Spaced ⟨blanks.toList, hblanks⟩ (text.toList.drop i) text.toList
      (widened text blanks i).toList := by
    have happend := spaced_append ⟨blanks.toList, hblanks⟩ hapart
    rw [List.take_append_drop] at happend
    rw [hwidened]
    exact happend
  obtain ⟨hok, herror⟩ := parseChars_of_spaced bound hspaced
  constructor
  · intro t ht
    rw [parse_eq_ok_iff_parseChars] at ht ⊢
    exact hok t ht
  · intro e he
    obtain ⟨stop, read, hstop, hreports, _⟩ := exists_reports_of_parse he
    obtain ⟨rest', hstop', hshifted⟩ := herror stop hstop
    obtain ⟨read', htext', _⟩ := parseChars_stops hstop'
    have hreports' := reports_ofStop htext'
    refine ⟨_, parse_of_parseChars_error hstop', ?_, ?_⟩
    · rw [hreports'.reason, hreports.reason]
    · rw [hreports'.offset, hreports.offset]
      -- Both texts are what was read and the rest; the rests differ by the blanks or not at all.
      have hlength := congrArg List.length hreports.toList_text
      have hlength' := congrArg List.length htext'
      rw [hwidened] at hlength'
      rw [← String.length_toList] at hi
      simp only [List.length_append, List.length_take, List.length_drop] at hlength hlength'
      rw [← String.length_toList]
      generalize stop.rest = rest at hshifted hlength
      cases hshifted with
      | past hle =>
        rw [List.length_drop] at hle
        rw [if_pos (by omega)]
        omega
      | @ahead front hne _ =>
        have hpos := List.length_pos_of_ne_nil hne
        simp only [List.length_append, List.length_drop] at hlength hlength'
        rw [if_neg (by omega)]
        omega

/-- A line feed and a tab within the right operand of an operator that is too deep, and right before
that operator. -/
theorem blanks_insignificant_around_deep_operator :
    (∀ c ∈ "\n\t".toList, c ∈ blankChars)
      ∧ parse 1 "1 + 2*34" = .error ⟨"expression nests deeper than 1 levels", 1, 3, "+ 2*34"⟩
      ∧ (∃ e, parse 1 "1 + 2\n\t*34" = .error e
          ∧ e.reason = "expression nests deeper than 1 levels" ∧ e.offset "1 + 2\n\t*34" = 2)
      ∧ ∃ e, parse 1 "1 \n\t+ 2*34" = .error e
          ∧ e.reason = "expression nests deeper than 1 levels"
          ∧ e.offset "1 \n\t+ 2*34" = 4 := by
  have hblanks : ∀ c ∈ "\n\t".toList, c ∈ blankChars := by
    simp [blankChars]
  have hparse : parse 1 "1 + 2*34"
      = .error ⟨"expression nests deeper than 1 levels", 1, 3, "+ 2*34"⟩ := by
    decide +kernel
  have hwithin : Apart ("1 + 2*34".toList.take 5) ("1 + 2*34".toList.drop 5) := by
    rintro c ⟨⟩ c' ⟨⟩
    decide
  have hbefore : Apart ("1 + 2*34".toList.take 2) ("1 + 2*34".toList.drop 2) := by
    rintro c ⟨⟩ c' ⟨⟩
    decide
  exact ⟨hblanks, hparse, (blanks_insignificant hblanks (by decide) hwithin).2 _ hparse,
    (blanks_insignificant hblanks (by decide) hbefore).2 _ hparse⟩

end Parser

end Reckoner
