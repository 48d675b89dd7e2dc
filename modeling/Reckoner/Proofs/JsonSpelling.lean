import Mathlib.Algebra.Order.Ring.Nat
import Mathlib.Data.List.Basic
import Mathlib.Data.List.TakeDrop
import Reckoner.Json.Reader
import Reckoner.Json.Writer
import Reckoner.Word

/-!
# Documents are read back from their texts

Reading the text of a document gives the document back. This is shown for one kind of document at a
time, for any rules of reading and with any text behind the document, since a document is mostly a
part of another one (`ReadsBack`). Two conditions come with it. What stands behind a number must not
go on with it, and it does not: behind a part of an array or of an object stands a comma or the end
of what it is a part of (`Closes`). And the reader has to have steps left, one for each character at
most, so the length of the text is a supply that suffices.

Of an array it is enough that its items are read back one level further in, and of an object that
the values of its fields are, if no name occurs twice: a second field of the same name would take
the place of the first. So whether a document is read back can be told part by part, and the number
of levels is that of the parts and one more.
-/

namespace Reckoner.Json

/-- The end of the text, or the end of a part of an array or of an object. -/
def Closes (rest : List Char) : Prop :=
  ∀ c, rest.head? = some c → c = ',' ∨ c = ']' ∨ c = '\x7d'

/-- The text of the document does not start like a blank or the end of an array, and a reader that
may go in by a number of levels reads the document and leaves what stands behind it. -/
structure ReadsBack (rules : Rules) (levels : Nat) (doc : Json) : Prop where
  starts : ∃ c tail, doc.written.toList = c :: tail ∧ isBlank c = false ∧ c ≠ ']'
  value_eq : ∀ (steps : Nat) (rest : List Char), doc.written.toList.length ≤ steps → Closes rest →
    value? rules [] steps levels (doc.written.toList ++ rest) = .ok (doc, rest)

theorem skipBlanks_cons {c : Char} (hc : isBlank c = false) (rest : List Char) :
    skipBlanks (c :: rest) = c :: rest :=
  List.dropWhile_cons_of_neg (by simp [hc])

/-! ## Strings -/

theorem hexDigit?_digitChar {d : Nat} (hd : d < 16) : hexDigit? (Nat.digitChar d) = some d := by
  have hall : ∀ k : Fin 16, hexDigit? (Nat.digitChar k) = some k.val := by decide
  exact hall ⟨d, hd⟩

/-- Four hexadecimal digits spell the number they were made from. -/
theorem codeUnit?_hex {n : Nat} (hn : n < 0x10000) (e : Char) (rest : List Char) :
    codeUnit? (Text.hex 4 n ++ e :: rest) = some (n, e :: rest) := by
  have hdigits : Text.hex 4 n
      = [Nat.digitChar (n / 16 / 16 / 16 % 16), Nat.digitChar (n / 16 / 16 % 16),
          Nat.digitChar (n / 16 % 16), Nat.digitChar (n % 16)] := rfl
  have hvalue : ((n / 16 / 16 / 16 % 16 * 16 + n / 16 / 16 % 16) * 16 + n / 16 % 16) * 16 + n % 16
      = n := by omega
  have hdigit : ∀ m, hexDigit? (Nat.digitChar (m % 16)) = some (m % 16) :=
    fun m => hexDigit?_digitChar (Nat.mod_lt m (by decide))
  rw [hdigits]
  simp only [List.cons_append, List.nil_append, codeUnit?, hex4?, hdigit, Option.bind_eq_bind,
    Option.bind_some, Option.pure_def, Option.map_some, hvalue]

theorem codePoint?_control {c : Char} (hc : c.toNat < 0x20) (e : Char) (rest : List Char) :
    codePoint? (Text.hex 4 c.toNat ++ e :: rest) = some (.char c, e :: rest) := by
  have hhigh : Text.isHighHalf c.toNat = false := by
    simp only [Text.isHighHalf, Bool.and_eq_false_iff, decide_eq_false_iff_not]
    omega
  have hlow : Text.isLowHalf c.toNat = false := by
    simp only [Text.isLowHalf, Bool.and_eq_false_iff, decide_eq_false_iff_not]
    omega
  have hpoint : Text.CodePoint.ofUnit c.toNat = .char c := by
    rw [Text.CodePoint.ofUnit, dif_neg (by simp [hhigh, hlow]), Char.ofNat_toNat]
  rw [codePoint?, codeUnit?_hex (by omega)]
  simp only [hhigh, Bool.false_eq_true, if_false, hpoint]

/-- One step of the reader for each character, however it was spelled. -/
theorem stringLoop_escapedChar (lone : LoneHalf) (opening : List Char) (steps : Nat)
    (done : List Text.CodePoint) (c e : Char) (rest : List Char) :
    stringLoop lone [] opening (steps + 1) done (escapedChar c ++ e :: rest)
      = stringLoop lone [] opening steps (.char c :: done) (e :: rest) := by
  unfold escapedChar
  split
  · simp [stringLoop, escape?]
  · simp [stringLoop, escape?]
  · simp [stringLoop, escape?]
  · simp [stringLoop, escape?]
  · simp [stringLoop, escape?]
  · simp [stringLoop, escape?]
  · simp [stringLoop, escape?]
  · next hquote hslash _ _ _ _ _ =>
    split
    · next hcontrol =>
      simp [stringLoop, codePoint?_control hcontrol, Text.CodePoint.isHalf]
    · next hplain =>
      rw [List.singleton_append, stringLoop.eq_def]
      dsimp only
      rw [if_neg hquote, if_neg hslash, if_neg hplain]
      rfl

/-- **The inside of a string is read up to the quote that closes it.** -/
theorem stringLoop_escaped (lone : LoneHalf) (opening : List Char) (s : List Char) (steps : Nat)
    (done : List Text.CodePoint) (rest : List Char) (hsteps : s.length < steps) :
    stringLoop lone [] opening steps done (s.flatMap escapedChar ++ '"' :: rest)
      = .ok (.ofPoints (done.reverse ++ s.map .char), rest) := by
  induction s generalizing steps done with
  | nil =>
    obtain ⟨steps, rfl⟩ := Nat.exists_eq_add_of_lt hsteps
    simp [stringLoop]
  | cons c s ih =>
    obtain ⟨steps, rfl⟩ : ∃ k, steps = k + 1 := ⟨steps - 1, by omega⟩
    -- Something always stands behind the character, if only the closing quote.
    obtain ⟨e, after, hafter⟩ : ∃ e after, s.flatMap escapedChar ++ '"' :: rest = e :: after := by
      cases h : s.flatMap escapedChar with
      | nil => exact ⟨_, _, rfl⟩
      | cons e t => exact ⟨_, _, rfl⟩
    rw [List.flatMap_cons, List.append_assoc, hafter, stringLoop_escapedChar, ← hafter,
      ih _ _ (by rw [List.length_cons] at hsteps; omega)]
    simp

theorem string?_written (lone : LoneHalf) (s : String) (rest : List Char) :
    string? lone [] (s.toList.flatMap escapedChar ++ '"' :: rest) = .ok (.text s, rest) := by
  have hlength : s.toList.length ≤ (s.toList.flatMap escapedChar).length := by
    have hone : ∀ c, 1 ≤ (escapedChar c).length := by
      intro c
      unfold escapedChar
      split
      all_goals try simp
      split <;> simp
    induction s.toList with
    | nil => exact Nat.le_refl _
    | cons c t ih =>
      have := hone c
      rw [List.flatMap_cons, List.length_append, List.length_cons]
      omega
  rw [string?, stringLoop_escaped _ _ _ _ _ _ (by simp only [List.length_append]; omega),
    List.reverse_nil, List.nil_append, Text.Raw.ofPoints_map_char, String.ofList_toList]

theorem toList_writtenString (s : String) :
    (writtenString s).toList = '"' :: (s.toList.flatMap escapedChar ++ ['"']) := by
  rw [writtenString, String.toList_ofList]

theorem readsBack_string (rules : Rules) (levels : Nat) (s : String) :
    ReadsBack rules levels (.string s) := by
  have hwritten : (Json.string s).written.toList
      = '"' :: (s.toList.flatMap escapedChar ++ ['"']) := by
    rw [written, toList_writtenString]
  refine ⟨⟨_, _, hwritten, by decide, by decide⟩, ?_⟩
  intro steps rest hsteps _
  rw [hwritten] at hsteps ⊢
  obtain ⟨steps, rfl⟩ : ∃ k, steps = k + 1 := ⟨steps - 1, by rw [List.length_cons] at hsteps; omega⟩
  rw [List.cons_append, List.append_assoc, List.singleton_append, value?, string?_written]
  rfl

/-! ## Numbers -/

/-- What closes a part does not go on with a number. -/
theorem Closes.head_ne {rest : List Char} (hrest : Closes rest) {c : Char}
    (hc : rest.head? = some c) : c.isDigit = false ∧ c ≠ '.' ∧ c ≠ 'e' ∧ c ≠ 'E' := by
  rcases hrest c hc with rfl | rfl | rfl <;> decide

theorem digits_append {ds rest : List Char} (hds : ∀ c ∈ ds, c.isDigit = true)
    (hrest : Closes rest) : digits (ds ++ rest) = (ds, rest) := by
  rw [digits, List.span_eq_takeWhile_dropWhile, List.takeWhile_append_of_pos hds,
    List.dropWhile_append_of_pos hds]
  cases rest with
  | nil => simp
  | cons c rest => simp [(hrest.head_ne rfl).1]

theorem fraction_of_closes {rest : List Char} (hrest : Closes rest) :
    fraction rest = ([], rest) := by
  unfold fraction
  split
  · exact absurd rfl (hrest.head_ne rfl).2.1
  · rfl

theorem exponent_of_closes {rest : List Char} (hrest : Closes rest) :
    exponent rest = (none, rest) := by
  unfold exponent
  split
  · rfl
  · next mark rest' =>
    obtain ⟨_, _, hsmall, hlarge⟩ := hrest.head_ne (c := mark) rfl
    rw [if_neg (by simp [hsmall, hlarge])]

/-- No number but zero is spelled with a zero at the front. -/
theorem head?_toDigits_ne {n : Nat} (hn : 0 < n) : (Nat.toDigits 10 n).head? ≠ some '0' := by
  induction n using Nat.strongRecOn with
  | ind n ih =>
    by_cases hsmall : n < 10
    · rw [Nat.toDigits_of_lt_base hsmall, List.head?_cons]
      have hdigit : ∀ k : Fin 10, 0 < k.val → some (Nat.digitChar k) ≠ some '0' := by decide
      exact hdigit ⟨n, hsmall⟩ hn
    · rw [Nat.toDigits_of_base_le (by decide) (Nat.le_of_not_lt hsmall),
        List.head?_append_of_ne_nil _ Nat.toDigits_ne_nil]
      exact ih (n / 10) (by omega) (by omega)

/-- Of the numbers only zero starts with a zero, so that the zero is the whole number. -/
theorem toDigits_append_eq_zero_cons {m : Nat} {rest rest' : List Char}
    (h : Nat.toDigits 10 m ++ rest = '0' :: rest') :
    (Nat.toDigits 10 m, rest) = (['0'], rest') := by
  rcases Nat.eq_zero_or_pos m with rfl | hpos
  · rw [Nat.toDigits_zero, List.singleton_append, List.cons.injEq] at h
    rw [Nat.toDigits_zero, h.2]
  · have hhead := congrArg List.head? h
    rw [List.head?_append_of_ne_nil _ Nat.toDigits_ne_nil] at hhead
    exact absurd hhead (head?_toDigits_ne hpos)

/-- **A whole number is read back without its sign.** -/
theorem unsignedNumber_toDigits (length : Length) (s : List Char) (negative : Bool) {m : Nat}
    (hm : (Nat.toDigits 10 m).length < maxNumberLength) {rest : List Char} (hrest : Closes rest) :
    unsignedNumber length s negative (Nat.toDigits 10 m ++ rest)
      = .ok (.integer (if negative then -(m : Int) else m), rest) := by
  have hdigits : ∀ c ∈ Nat.toDigits 10 m, c.isDigit = true :=
    fun c hc => Nat.isDigit_of_mem_toDigits (by decide) (by decide) hc
  have hvalue : Text.ofDigits (Nat.toDigits 10 m) = m := Nat.ofDigitChars_ten_toDigits
  have hshort : length.exceeded negative (Nat.toDigits 10 m) true = false := by
    have hsign : negative.toNat ≤ 1 := Bool.toNat_le negative
    unfold Length.exceeded
    split
    · simp only [Bool.true_and, decide_eq_false_iff_not]
      omega
    · simp only [decide_eq_false_iff_not]
      omega
  unfold unsignedNumber
  dsimp only
  split
  · next hnone =>
    split at hnone
    · cases hnone
    · rw [digits_append hdigits hrest] at hnone
      exact absurd (congrArg Prod.fst hnone) Nat.toDigits_ne_nil
  · next ds rest' _ hsome =>
    have hfront : (Nat.toDigits 10 m, rest) = (ds, rest') := by
      split at hsome
      · next heq => exact (toDigits_append_eq_zero_cons heq).trans hsome
      · exact (digits_append hdigits hrest).symm.trans hsome
    cases hfront
    rw [fraction_of_closes hrest]
    dsimp only
    rw [exponent_of_closes hrest]
    simp only [List.isEmpty_nil, Option.isNone_none, Bool.and_self, hshort, hvalue,
      Bool.false_eq_true, if_false, if_true]

theorem word?_digit_cons {c : Char} (hc : c.isDigit = true) (s : List Char) :
    word? (c :: s) = none ∧ word? ('-' :: c :: s) = none := by
  have hne : ∀ letter : Char, letter.isDigit = false → letter ≠ c := by
    rintro letter hletter rfl
    exact absurd hc (by simp [hletter])
  simp [word?, words, hne 'n' (by decide), hne 't' (by decide),
    hne 'f' (by decide), hne 'N' (by decide), hne 'I' (by decide), hne '-' (by decide)]

/-- Whatever does not start like another kind of document is a number. -/
theorem value?_of_word?_none {s : List Char} (hword : word? s = none)
    (hs : ∀ c, s.head? = some c → c ≠ '"' ∧ c ≠ '[' ∧ c ≠ '\x7b') (rules : Rules)
    (steps levels : Nat) : value? rules [] (steps + 1) levels s = number? rules.length s := by
  rw [value?]
  · rw [hword]
  · rintro inside rfl
    exact (hs _ rfl).1 rfl
  · rintro inside rfl
    exact (hs _ rfl).2.1 rfl
  · rintro inside rfl
    exact (hs _ rfl).2.2 rfl

theorem readsBack_integer (rules : Rules) (levels : Nat) {n : Int}
    (hn : (Nat.toDigits 10 n.natAbs).length < maxNumberLength) :
    ReadsBack rules levels (.integer n) := by
  obtain ⟨d, ds, hds⟩ := List.exists_cons_of_ne_nil (Nat.toDigits_ne_nil (n := n.natAbs) (b := 10))
  have hd : d.isDigit = true :=
    Nat.isDigit_of_mem_toDigits (by decide) (by decide) (hds ▸ List.mem_cons_self)
  have hne : ∀ c : Char, c.isDigit = false → d ≠ c := by
    rintro c hc rfl
    exact absurd hd (by simp [hc])
  by_cases hneg : n < 0
  · have hwritten : (Json.integer n).written.toList = '-' :: Nat.toDigits 10 n.natAbs := by
      rw [written, Text.decimal, if_pos hneg, String.toList_append, Nat.toList_repr]
      rfl
    refine ⟨⟨_, _, hwritten, by decide, by decide⟩, ?_⟩
    intro steps rest hsteps hrest
    rw [hwritten, List.length_cons] at hsteps
    obtain ⟨steps, rfl⟩ : ∃ k, steps = k + 1 := ⟨steps - 1, by omega⟩
    have hvalue : -(n.natAbs : Int) = n := by omega
    rw [hwritten, List.cons_append, value?_of_word?_none ?_ ?_, number?,
      unsignedNumber_toDigits _ _ _ hn hrest, if_pos rfl, hvalue]
    · rw [hds, List.cons_append]
      exact (word?_digit_cons hd _).2
    · rintro c hc
      cases hc
      decide
  · have hwritten : (Json.integer n).written.toList = Nat.toDigits 10 n.natAbs := by
      rw [written, Text.decimal, if_neg hneg, Nat.toList_repr]
    have hblank : isBlank d = false := by
      simp [isBlank, hne ' ' (by decide), hne '\t' (by decide), hne '\r' (by decide),
        hne '\n' (by decide)]
    refine ⟨⟨d, ds, hwritten.trans hds, hblank, hne _ (by decide)⟩, ?_⟩
    intro steps rest hsteps hrest
    rw [hwritten, hds, List.length_cons] at hsteps
    obtain ⟨steps, rfl⟩ : ∃ k, steps = k + 1 := ⟨steps - 1, by omega⟩
    have hvalue : (n.natAbs : Int) = n := by omega
    have hnumber : number? rules.length (Nat.toDigits 10 n.natAbs ++ rest)
        = unsignedNumber rules.length (Nat.toDigits 10 n.natAbs ++ rest) false
            (Nat.toDigits 10 n.natAbs ++ rest) := by
      unfold number?
      split
      · next heq =>
        rw [hds, List.cons_append, List.cons.injEq] at heq
        exact absurd heq.1 (hne '-' (by decide))
      · rfl
    rw [hwritten, value?_of_word?_none ?_ ?_, hnumber, unsignedNumber_toDigits _ _ _ hn hrest,
      if_neg Bool.false_ne_true, hvalue]
    · rw [hds, List.cons_append]
      exact (word?_digit_cons hd _).1
    · intro c hc
      rw [hds, List.cons_append, List.head?_cons, Option.some.injEq] at hc
      subst hc
      exact ⟨hne _ (by decide), hne _ (by decide), hne _ (by decide)⟩

/-- Numbers of up to twenty digits are far from the greatest length. -/
theorem readsBack_of_natAbs_lt (rules : Rules) (levels : Nat) {n : Int}
    (hn : n.natAbs < 10 ^ 20) : ReadsBack rules levels (.integer n) := by
  have hlength : (Nat.toDigits 10 n.natAbs).length ≤ 20 :=
    (Nat.length_toDigits_le_iff (by decide) (by decide)).mpr hn
  refine readsBack_integer rules levels ?_
  rw [maxNumberLength]
  omega

theorem readsBack_word (rules : Rules) (levels : Nat) {n : Int} (hn : Word.InRange n) :
    ReadsBack rules levels (.integer n) := by
  refine readsBack_of_natAbs_lt rules levels ?_
  simp only [Word.InRange, Word.least, Word.greatest] at hn
  omega

/-! ## Parts of a document -/

theorem toList_intercalate_comma (text : String) (texts : List String) :
    (",".intercalate (text :: texts)).toList
      = text.toList ++ texts.flatMap fun other => ',' :: other.toList := by
  induction texts generalizing text with
  | nil => rw [String.intercalate_singleton, List.flatMap_nil, List.append_nil]
  | cons other texts ih =>
    rw [String.intercalate_cons_cons, String.toList_append, String.toList_append, ih,
      List.flatMap_cons, List.append_assoc]
    rfl

theorem closes_parts {α : Type} (chars : α → List Char) (parts : List α) {close : Char}
    (hclose : close = ']' ∨ close = '\x7d') (rest : List Char) :
    Closes (parts.flatMap (fun part => ',' :: chars part) ++ close :: rest) := by
  intro c hc
  cases parts with
  | nil =>
    cases hc
    exact Or.inr hclose
  | cons part parts =>
    cases hc
    exact Or.inl rfl

theorem ReadsBack.skipBlanks_append {rules : Rules} {levels : Nat} {doc : Json}
    (h : ReadsBack rules levels doc) (rest : List Char) :
    skipBlanks (doc.written.toList ++ rest) = doc.written.toList ++ rest := by
  obtain ⟨c, tail, hwritten, hblank, _⟩ := h.starts
  rw [hwritten, List.cons_append, skipBlanks_cons hblank]

/-! ## Arrays -/

theorem writtenItems_eq_map (items : List Json) : writtenItems items = items.map written := by
  induction items with
  | nil => rfl
  | cons item items ih => rw [writtenItems, ih, List.map_cons]

theorem toList_written_array (item : Json) (items : List Json) :
    (Json.array (item :: items)).written.toList
      = '[' :: (item.written.toList
          ++ (items.flatMap (fun other => ',' :: other.written.toList) ++ [']'])) := by
  rw [written, writtenItems_eq_map, List.map_cons, String.toList_append, String.toList_append,
    toList_intercalate_comma, List.flatMap_map, List.append_assoc, List.append_assoc]
  rfl

/-- Items are read one after the other, up to the bracket that closes the array. -/
theorem items?_written {rules : Rules} {levels : Nat} (item : Json) (items : List Json)
    (h : ∀ doc ∈ item :: items, ReadsBack rules levels doc) (steps : Nat) (done : List Json)
    (rest : List Char)
    (hsteps : (item.written.toList
      ++ items.flatMap fun other => ',' :: other.written.toList).length < steps) :
    items? rules [] steps levels done (item.written.toList
        ++ (items.flatMap (fun other => ',' :: other.written.toList) ++ ']' :: rest))
      = .ok (.array (done.reverse ++ item :: items), rest) := by
  induction items generalizing item steps done with
  | nil =>
    obtain ⟨steps, rfl⟩ : ∃ k, steps = k + 1 := ⟨steps - 1, by omega⟩
    rw [List.length_append] at hsteps
    have hread := (h item List.mem_cons_self).value_eq steps (']' :: rest) (by omega)
      (closes_parts (fun doc : Json => doc.written.toList) [] (Or.inl rfl) rest)
    rw [List.flatMap_nil, List.nil_append, items?, hread]
    dsimp only
    rw [skipBlanks_cons (by decide)]
    simp
  | cons next items ih =>
    obtain ⟨steps, rfl⟩ : ∃ k, steps = k + 1 := ⟨steps - 1, by omega⟩
    rw [List.length_append, List.flatMap_cons, List.cons_append, List.length_cons] at hsteps
    have hread := (h item List.mem_cons_self).value_eq steps
      ((next :: items).flatMap (fun other => ',' :: other.written.toList) ++ ']' :: rest) (by omega)
      (closes_parts (fun doc => doc.written.toList) (next :: items) (Or.inl rfl) rest)
    have hrest : ∀ doc ∈ next :: items, ReadsBack rules levels doc :=
      fun doc hdoc => h doc (List.mem_cons_of_mem _ hdoc)
    rw [items?, hread]
    dsimp only
    rw [List.flatMap_cons, List.cons_append, List.cons_append, List.append_assoc,
      skipBlanks_cons (by decide)]
    show items? rules [] steps levels (item :: done) (skipBlanks (next.written.toList ++ _)) = _
    rw [(hrest next List.mem_cons_self).skipBlanks_append, ih next hrest _ _ (by omega)]
    simp

theorem readsBack_array {rules : Rules} {levels : Nat} {items : List Json}
    (h : ∀ item ∈ items, ReadsBack rules levels item) :
    ReadsBack rules (levels + 1) (.array items) := by
  cases items with
  | nil =>
    have hwritten : (Json.array []).written.toList = ['[', ']'] := rfl
    refine ⟨⟨_, _, hwritten, by decide, by decide⟩, ?_⟩
    intro steps rest hsteps _
    rw [hwritten] at hsteps ⊢
    obtain ⟨steps, rfl⟩ : ∃ k, steps = k + 1 := ⟨steps - 1, by simp at hsteps; omega⟩
    rw [List.cons_append, List.singleton_append, value?, skipBlanks_cons (by decide)]
    rfl
  | cons item items =>
    have hwritten := toList_written_array item items
    refine ⟨⟨_, _, hwritten, by decide, by decide⟩, ?_⟩
    intro steps rest hsteps _
    rw [hwritten] at hsteps ⊢
    obtain ⟨steps, rfl⟩ : ∃ k, steps = k + 1 :=
      ⟨steps - 1, by rw [List.length_cons] at hsteps; omega⟩
    have hitem := h item List.mem_cons_self
    obtain ⟨c, tail, hstarts, _, hc⟩ := hitem.starts
    have hlength : (item.written.toList
        ++ items.flatMap fun other => ',' :: other.written.toList).length < steps := by
      simp only [List.length_append, List.length_cons] at hsteps ⊢
      omega
    rw [List.cons_append, List.append_assoc, List.append_assoc, List.singleton_append, value?,
      hitem.skipBlanks_append]
    split
    · next heq =>
      rw [hstarts, List.cons_append, List.cons.injEq] at heq
      exact absurd heq.1 hc
    · rw [if_neg (Nat.succ_ne_zero levels), Nat.add_sub_cancel,
        items?_written item items h steps [] rest hlength]
      rfl

/-! ## Objects -/

/-- The name of the field is a text, and its value is read back. -/
structure FieldReadsBack (rules : Rules) (levels : Nat) (field : Text.Raw × Json) : Prop where
  isText : field.1.isText = true
  readsBack : ReadsBack rules levels field.2

/-- A field as it stands in an object. -/
def fieldChars (field : Text.Raw × Json) : List Char :=
  (writtenString field.1.shown).toList ++ ':' :: field.2.written.toList

theorem writtenFields_eq_map (fields : Fields) :
    writtenFields fields = fields.map fun field => String.ofList (fieldChars field) := by
  induction fields with
  | nil => rfl
  | cons field fields ih =>
    have hfield : writtenString field.1.shown ++ ":" ++ field.2.written
        = String.ofList (fieldChars field) := by
      rw [← String.toList_inj, String.toList_append, String.toList_append, String.toList_ofList,
        String.toList_ofList, fieldChars, List.append_assoc, List.singleton_append]
    rw [writtenFields, ih, List.map_cons, hfield]

theorem toList_written_object (field : Text.Raw × Json) (fields : Fields) :
    (Json.object (field :: fields)).written.toList
      = '\x7b' :: (fieldChars field
          ++ (fields.flatMap (fun other => ',' :: fieldChars other) ++ ['\x7d'])) := by
  have hopen : "\x7b".toList = ['\x7b'] := rfl
  have hclose : "\x7d".toList = ['\x7d'] := rfl
  rw [written, writtenFields_eq_map, List.map_cons, String.toList_append, String.toList_append,
    toList_intercalate_comma, List.flatMap_map, hopen, hclose, List.append_assoc,
    List.append_assoc, List.singleton_append]
  simp only [String.toList_ofList]

theorem setField_of_not_mem {name : Text.Raw} {fields : Fields}
    (h : name ∉ fields.map Prod.fst) (value : Json) :
    setField name value fields = fields ++ [(name, value)] := by
  induction fields with
  | nil => rfl
  | cons field fields ih =>
    rw [List.map_cons, List.mem_cons, not_or] at h
    rw [setField, if_neg (Ne.symm h.1), ih h.2, List.cons_append]

/-- One field is read, and what comes next decides how it goes on. -/
theorem fields?_fieldChars {rules : Rules} {levels : Nat} {field : Text.Raw × Json}
    (h : FieldReadsBack rules levels field) {steps : Nat}
    (hsteps : (fieldChars field).length ≤ steps)
    {done : Fields} (hname : field.1 ∉ done.map Prod.fst) {rest : List Char}
    (hrest : Closes rest) :
    fields? rules [] (steps + 1) levels done (fieldChars field ++ rest)
      = match skipBlanks rest with
        | '\x7d' :: rest' => .ok (.object (done ++ [field]), rest')
        | ',' :: rest' => fields? rules [] steps levels (done ++ [field]) (skipBlanks rest')
        | other => .error ⟨.commaExpected, other⟩ := by
  have hchars : fieldChars field ++ rest
      = '"' :: (field.1.shown.toList.flatMap escapedChar
          ++ '"' :: ':' :: (field.2.written.toList ++ rest)) := by
    simp [fieldChars, toList_writtenString]
  have hlength : field.2.written.toList.length ≤ steps := by
    rw [fieldChars, List.length_append, List.length_cons] at hsteps
    omega
  have hset : setField field.1 field.2 done = done ++ [field] := setField_of_not_mem hname field.2
  have hshown : .text field.1.shown = field.1 := Text.Raw.text_shown h.isText
  rw [hchars, fields?, string?_written, hshown]
  dsimp only
  rw [skipBlanks_cons (by decide)]
  simp only [h.readsBack.skipBlanks_append, h.readsBack.value_eq steps rest hlength hrest]
  exact hset ▸ rfl

/-- Fields are read one after the other, up to the brace that closes the object. -/
theorem fields?_written {rules : Rules} {levels : Nat} (field : Text.Raw × Json)
    (fields : Fields) (h : ∀ other ∈ field :: fields, FieldReadsBack rules levels other)
    (steps : Nat) (done : Fields)
    (hnames : ((done ++ field :: fields).map Prod.fst).Nodup) (rest : List Char)
    (hsteps : (fieldChars field
      ++ fields.flatMap fun other => ',' :: fieldChars other).length < steps) :
    fields? rules [] steps levels done (fieldChars field
        ++ (fields.flatMap (fun other => ',' :: fieldChars other) ++ '\x7d' :: rest))
      = .ok (.object (done ++ field :: fields), rest) := by
  have hname : ∀ {fields done : Fields} {field : Text.Raw × Json},
      ((done ++ field :: fields).map Prod.fst).Nodup → field.1 ∉ done.map Prod.fst := by
    intro fields done field hnodup hmem
    rw [List.map_append, List.map_cons] at hnodup
    exact (List.nodup_append.mp hnodup).2.2 _ hmem _ List.mem_cons_self rfl
  induction fields generalizing field steps done with
  | nil =>
    obtain ⟨steps, rfl⟩ : ∃ k, steps = k + 1 := ⟨steps - 1, by omega⟩
    rw [List.length_append] at hsteps
    rw [fields?_fieldChars (h field List.mem_cons_self) (by omega) (hname hnames)
        (closes_parts fieldChars [] (Or.inr rfl) rest),
      List.flatMap_nil, List.nil_append, skipBlanks_cons (by decide)]
    rfl
  | cons next fields ih =>
    obtain ⟨steps, rfl⟩ : ∃ k, steps = k + 1 := ⟨steps - 1, by omega⟩
    rw [List.length_append, List.flatMap_cons, List.cons_append, List.length_cons] at hsteps
    rw [fields?_fieldChars (h field List.mem_cons_self) (by omega) (hname hnames)
        (closes_parts fieldChars (next :: fields) (Or.inr rfl) rest),
      List.flatMap_cons, List.cons_append, List.cons_append, List.append_assoc,
      skipBlanks_cons (by decide)]
    have hquote : ∃ tail, fieldChars next = '"' :: tail :=
      ⟨_, by rw [fieldChars, toList_writtenString, List.cons_append]⟩
    obtain ⟨tail, htail⟩ := hquote
    have hskip : ∀ after, skipBlanks (fieldChars next ++ after) = fieldChars next ++ after := by
      intro after
      rw [htail, List.cons_append, skipBlanks_cons (by decide)]
    have happend : done ++ [field] ++ next :: fields = done ++ field :: next :: fields := by
      rw [List.append_assoc, List.singleton_append]
    show fields? rules [] steps levels (done ++ [field]) (skipBlanks (fieldChars next ++ _)) = _
    rw [hskip, ih next (fun other hother => h other (List.mem_cons_of_mem _ hother)) steps
      (done ++ [field]) (by rw [happend]; exact hnames) (by omega), happend]

theorem readsBack_object {rules : Rules} {levels : Nat} {fields : Fields}
    (hnames : (fields.map Prod.fst).Nodup)
    (h : ∀ field ∈ fields, FieldReadsBack rules levels field) :
    ReadsBack rules (levels + 1) (.object fields) := by
  cases fields with
  | nil =>
    have hwritten : (Json.object []).written.toList = ['\x7b', '\x7d'] := rfl
    refine ⟨⟨_, _, hwritten, by decide, by decide⟩, ?_⟩
    intro steps rest hsteps _
    rw [hwritten] at hsteps ⊢
    obtain ⟨steps, rfl⟩ : ∃ k, steps = k + 1 := ⟨steps - 1, by simp at hsteps; omega⟩
    rw [List.cons_append, List.singleton_append, value?, skipBlanks_cons (by decide)]
    rfl
  | cons field fields =>
    have hwritten := toList_written_object field fields
    refine ⟨⟨_, _, hwritten, by decide, by decide⟩, ?_⟩
    intro steps rest hsteps _
    rw [hwritten] at hsteps ⊢
    obtain ⟨steps, rfl⟩ : ∃ k, steps = k + 1 :=
      ⟨steps - 1, by rw [List.length_cons] at hsteps; omega⟩
    have hlength : (fieldChars field
        ++ fields.flatMap fun other => ',' :: fieldChars other).length < steps := by
      simp only [List.length_append, List.length_cons] at hsteps ⊢
      omega
    have hread := fields?_written field fields h steps [] hnames rest hlength
    obtain ⟨tail, htail⟩ : ∃ tail, fieldChars field = '"' :: tail :=
      ⟨_, by rw [fieldChars, toList_writtenString, List.cons_append]⟩
    rw [List.nil_append, htail] at hread
    rw [List.cons_append, List.append_assoc, List.append_assoc, List.singleton_append, value?,
      htail, List.cons_append, skipBlanks_cons (by decide)]
    exact hread

/-! ## Whole texts -/

/-- **A document is read back from its text.** -/
theorem ofChars_written {rules : Rules} {doc : Json} (h : ReadsBack rules rules.maxNesting doc) :
    ofChars rules doc.written.toList = .ok doc := by
  have hclosed : Closes [] := fun c hc => nomatch hc
  have hskip := h.skipBlanks_append []
  have hread := h.value_eq (2 * doc.written.toList.length + 2) [] (by omega) hclosed
  rw [List.append_nil] at hskip hread
  rw [ofChars_eq, hskip, hread]
  rfl

end Reckoner.Json
