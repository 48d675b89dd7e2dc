import Mathlib.Algebra.Order.Ring.Nat
import Reckoner.Parser

/-!
# The range of a literal

The reader refuses a literal with more significant digits than the greatest word has, and it does so
without computing the value. This file shows that the shortcut is no more than that: a run of digits
is refused exactly when the number it denotes, leading zeros included, is beyond the greatest word
(`literal?_eq`).

Leading zeros do not count because a zero at the front leaves the value at zero. What is left starts
with a digit of at least one, so `k` of them denote at least `10 ^ (k - 1)`; with more than nineteen
that is beyond every word. If nothing is left, one zero is put there (`significant`), which makes a
difference to neither the value nor the count.
-/

namespace Reckoner

namespace Text

/-- Zeros at the front of a run of digits do not change what it denotes. -/
theorem ofDigits_dropWhile_zero (digits : List Char) :
    ofDigits (digits.dropWhile (· = '0')) = ofDigits digits := by
  unfold ofDigits
  induction digits with
  | nil => rfl
  | cons c digits ih =>
    by_cases hc : c = '0'
    · subst hc
      rw [List.dropWhile_cons_of_pos (by simp), ih, Nat.ofDigitChars_cons]
      rfl
    · rw [List.dropWhile_cons_of_neg (by simpa using hc)]

/-- A run of digits that does not start with a zero denotes at least the power of ten that its
length allows for. -/
theorem pow_le_ofDigits {c : Char} (hdigit : c.isDigit = true) (hzero : c ≠ '0')
    (digits : List Char) : 10 ^ digits.length ≤ ofDigits (c :: digits) := by
  have hc : 1 ≤ c.toNat - '0'.toNat := by
    obtain ⟨hlow, _⟩ := Char.isDigit_iff_toNat.mp hdigit
    have hne : c.toNat ≠ '0'.toNat := fun h => hzero (Char.toNat_inj.mp h)
    omega
  unfold ofDigits
  rw [Nat.ofDigitChars_cons, Nat.ofDigitChars_eq_ofDigitChars_zero, Nat.mul_zero, Nat.zero_add]
  calc 10 ^ digits.length
      = 10 ^ digits.length * 1 := (Nat.mul_one _).symm
    _ ≤ 10 ^ digits.length * (c.toNat - '0'.toNat) := Nat.mul_le_mul_left _ hc
    _ ≤ _ := Nat.le_add_right _ _

end Text

namespace Parser

/-- Too many significant digits denote a number beyond the greatest word. -/
theorem greatest_lt_of_maxDigits_lt {digits : List Char} (hall : ∀ c ∈ digits, c.isDigit = true)
    (hlong : Word.maxDigits < (digits.dropWhile (· = '0')).length) :
    Word.greatest < Text.ofDigits digits := by
  rw [← Text.ofDigits_dropWhile_zero]
  rcases hsig : digits.dropWhile (· = '0') with _ | ⟨c, rest⟩
  · rw [hsig] at hlong
    exact absurd hlong (Nat.not_lt_zero _)
  · have hmem : c ∈ digits := by
      refine (List.dropWhile_sublist _).subset (?_ : c ∈ digits.dropWhile (· = '0'))
      rw [hsig]
      exact List.mem_cons_self
    have hzero : c ≠ '0' := by
      have hhead := List.head?_dropWhile_not (· = '0') digits
      rw [hsig] at hhead
      simpa using hhead
    -- The first significant digit counts at least once the power of ten of the digits behind it,
    -- and these are at least as many as the greatest word has digits.
    have hpow := Text.pow_le_ofDigits (hall c hmem) hzero rest
    have hlen : Word.maxDigits ≤ rest.length := by
      rw [hsig, List.length_cons] at hlong
      omega
    have hbig : 10 ^ Word.maxDigits ≤ 10 ^ rest.length := Nat.pow_le_pow_right (by decide) hlen
    have hword : Word.greatest < (10 ^ Word.maxDigits : Nat) := by decide
    omega

/-! ### The digits that count -/

theorem significant_ne_nil (digits : List Char) : significant digits ≠ [] := by
  unfold significant
  split <;> exact List.cons_ne_nil _ _

theorem isDigit_of_mem_significant {digits : List Char} (hall : ∀ c ∈ digits, c.isDigit = true)
    {c : Char} (hc : c ∈ significant digits) : c.isDigit = true := by
  unfold significant at hc
  split at hc
  · rw [List.mem_singleton.mp hc]
    rfl
  · next hdrop =>
    rw [← hdrop] at hc
    exact hall c ((List.dropWhile_sublist _).subset hc)

/-- A single zero counts as much as nothing at all. -/
theorem ofDigits_significant (digits : List Char) :
    Text.ofDigits (significant digits) = Text.ofDigits digits := by
  rw [← Text.ofDigits_dropWhile_zero digits]
  unfold significant
  split
  · next hdrop =>
    rw [hdrop]
    rfl
  · next hdrop => rw [hdrop]

theorem maxDigits_lt_length_significant {digits : List Char} :
    Word.maxDigits < (significant digits).length
      ↔ Word.maxDigits < (digits.dropWhile (· = '0')).length := by
  unfold significant
  split
  · next hdrop =>
    rw [hdrop]
    decide
  · next hdrop => rw [hdrop]

/-- **A literal is refused by its value alone.** -/
theorem literal?_eq {digits : List Char} (hall : ∀ c ∈ digits, c.isDigit = true) :
    literal? digits
      = if Word.greatest < Text.ofDigits digits then none else some (Text.ofDigits digits) := by
  rw [literal?, literalConverting]
  by_cases hlong : Word.maxDigits < (significant digits).length
  · have hbig := greatest_lt_of_maxDigits_lt hall (maxDigits_lt_length_significant.mp hlong)
    rw [if_pos hlong, if_pos hbig]
    rfl
  · rw [if_neg hlong, Text.Converting.result, ofDigits_significant]
    by_cases hbig : Word.greatest < Text.ofDigits digits
    · rw [if_pos hbig, if_pos hbig]
      rfl
    · rw [if_neg hbig, if_neg hbig, Text.Converting.result, ofDigits_significant]
      rfl

end Parser

end Reckoner
