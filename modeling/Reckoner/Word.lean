/-!
# The range of a machine word

Values are unbounded integers throughout, and what a value *may* be is a predicate on them: the
range of a signed word of 64 bits. Keeping the range apart from the type leaves exact arithmetic to
`Int`, so that "the exact result does not fit" can be said of the very number that was computed.
-/

namespace Reckoner.Word

/-- The smallest value of a word (`I64_MIN`). -/
def least : Int := -9223372036854775808

/-- The greatest value of a word (`I64_MAX`). -/
def greatest : Int := 9223372036854775807

/-- How many decimal digits the greatest value has (`_MAX_LITERAL_DIGITS`). No longer run of
significant digits can denote a word. -/
def maxDigits : Nat := 19

/-- A value that fits into a word. -/
def InRange (n : Int) : Prop := least ≤ n ∧ n ≤ greatest

instance (n : Int) : Decidable (InRange n) :=
  inferInstanceAs (Decidable (least ≤ n ∧ n ≤ greatest))

end Reckoner.Word
