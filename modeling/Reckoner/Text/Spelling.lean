import Reckoner.Text.CodePoint
import Reckoner.Text.Unprintable

/-!
# Numerals and quoted texts

An integer has one decimal spelling (`decimal`): no leading zero, no plus sign, and a minus sign in
front of a negative one. `ofDigits` reads a run of digits back, leading zeros allowed. Reading back
takes long for long runs. Where it matters which runs are read back at all, a computation asks for
each of its conversions (`Converting`) and does not make them itself, so that the requests are there
to be looked at.

Messages show what they were given between quotes (`quoted`), on one line and without anything a
terminal would act upon. The quotes are apostrophes, unless the text has an apostrophe and no double
quote in it; then they are double quotes. Inside, a backslash and the quote in use are escaped with
a backslash, the three common controls have names, and every other character without a printed form
is shown by its code point in two, four or eight hexadecimal digits, whichever is the first to
suffice. Half of a surrogate pair has no printed form either.
-/

namespace Reckoner.Text

/-! ## Decimal numerals -/

/-- The decimal spelling of an integer. -/
def decimal (n : Int) : String :=
  if n < 0 then "-" ++ Nat.repr n.natAbs else Nat.repr n.natAbs

/-- The number that a run of decimal digits denotes. The empty run denotes zero. -/
def ofDigits (digits : List Char) : Nat :=
  Nat.ofDigitChars 10 digits 0

/-- A computation that has digits converted for it: it has come to a result, or it hands over a run
of digits and goes on with the number it gets for them. -/
inductive Converting (α : Type) where
  | done (result : α)
  | convert (run : List Char) (next : Nat → Converting α)

namespace Converting

variable {α : Type}

/-- What the computation comes to when runs are converted like this. -/
def result (value : List Char → Nat) : Converting α → α
  | done r => r
  | convert run next => (next (value run)).result value

/-- The runs that are handed over, in the order in which they are. -/
def converted (value : List Char → Nat) : Converting α → List (List Char)
  | done _ => []
  | convert run next => run :: (next (value run)).converted value

end Converting

/-! ## Quoted texts -/

/-- The apostrophe, which is the usual quote. -/
def apostrophe : Char := '\x27'

/-- The other quote. -/
def doubleQuote : Char := '"'

/-- The quote that a text is shown between. -/
def quoteFor (text : List Char) : Char :=
  if text.contains apostrophe && !text.contains doubleQuote then doubleQuote else apostrophe

/-- A number in exactly as many lower-case hexadecimal digits as asked for, higher ones dropped. -/
def hex : Nat → Nat → List Char
  | 0, _ => []
  | width + 1, n => hex width (n / 16) ++ [Nat.digitChar (n % 16)]

/-- A character by its code point. -/
def escapedCode (n : Nat) : List Char :=
  if n < 0x100 then '\\' :: 'x' :: hex 2 n
  else if n < 0x10000 then '\\' :: 'u' :: hex 4 n
  else '\\' :: 'U' :: hex 8 n

/-- A character as it stands between quotes of the given kind. -/
def quotedChar (quote c : Char) : List Char :=
  if c = '\\' ∨ c = quote then ['\\', c]
  else if c = '\n' then ['\\', 'n']
  else if c = '\r' then ['\\', 'r']
  else if c = '\t' then ['\\', 't']
  else if isUnprintable c then escapedCode c.toNat
  else [c]

/-- A text between quotes. -/
def quotedChars (text : List Char) : List Char :=
  quoteFor text :: (text.flatMap (quotedChar (quoteFor text)) ++ [quoteFor text])

/-- A text between quotes. -/
def quoted (text : String) : String := String.ofList (quotedChars text.toList)

/-- A code point as it stands between quotes of the given kind. -/
def quotedPoint (quote : Char) : CodePoint → List Char
  | .char c => quotedChar quote c
  | .half half => escapedCode half.number

/-- What a string holds between quotes. -/
def Raw.quoted : Raw → String
  | .text s => Text.quoted s
  | .unpaired u =>
    let quote := quoteFor (u.points.map CodePoint.shown)
    String.ofList (quote :: (u.points.flatMap (quotedPoint quote) ++ [quote]))

end Reckoner.Text
