/-!
# Classes of characters

Classes that no short rule describes are given as tables of ranges of code points (`CodeRange`),
after version 14.0 of the Unicode character database.

Two classes of white space are in use, and they differ in four controls. `isWhiteSpace` is the
property of the Unicode standard. `isBlank` adds the information separators, which a terminal does
not show either. Where a rule speaks of digits without confining itself to the ten of ASCII, it
means every character that stands for a decimal digit in some script (`isDecimalDigit`).

A text that is read from outside has its line ends unified first (`unifyLineEnds`): a carriage
return, with or without a line feed behind it, becomes a line feed. When a text is divided into
lines (`lines`), more characters than the line feed count as ends of lines; the end that a line was
divided at is not part of it, and an end at the end of the text opens no further line.
-/

namespace Reckoner.Text

/-! ## Ranges of code points -/

/-- The code points from `first` to `last`, both included. -/
structure CodeRange where
  first : Nat
  last : Nat
  deriving DecidableEq, Repr

namespace CodeRange

/-- Whether a character's code point lies in the range. -/
def has (range : CodeRange) (c : Char) : Bool := range.first ≤ c.toNat && c.toNat ≤ range.last

/-- Whether one of the ranges holds a character. -/
def anyHas (table : List CodeRange) (c : Char) : Bool := table.any (·.has c)

end CodeRange

/-! ## White space -/

/-- The characters with the property White_Space. -/
def whiteSpace : List CodeRange :=
  [ ⟨0x09, 0x0D⟩, ⟨0x20, 0x20⟩, ⟨0x85, 0x85⟩, ⟨0xA0, 0xA0⟩, ⟨0x1680, 0x1680⟩, ⟨0x2000, 0x200A⟩,
    ⟨0x2028, 0x2029⟩, ⟨0x202F, 0x202F⟩, ⟨0x205F, 0x205F⟩, ⟨0x3000, 0x3000⟩ ]

/-- The four information separators. -/
def separators : CodeRange := ⟨0x1C, 0x1F⟩

/-- Whether a character has the property White_Space. -/
def isWhiteSpace (c : Char) : Bool := CodeRange.anyHas whiteSpace c

/-- Whether a character is white space or an information separator. -/
def isBlank (c : Char) : Bool := isWhiteSpace c || separators.has c

/-- A text without the characters of a class at its two ends. -/
def trimmed (among : Char → Bool) (s : List Char) : List Char :=
  ((s.dropWhile among).reverse.dropWhile among).reverse

/-! ## Decimal digits of all scripts -/

/-- The code points of decimal digits. -/
def decimalDigitRanges : List CodeRange :=
  [ ⟨0x0030, 0x0039⟩, ⟨0x0660, 0x0669⟩, ⟨0x06F0, 0x06F9⟩, ⟨0x07C0, 0x07C9⟩, ⟨0x0966, 0x096F⟩,
    ⟨0x09E6, 0x09EF⟩, ⟨0x0A66, 0x0A6F⟩, ⟨0x0AE6, 0x0AEF⟩, ⟨0x0B66, 0x0B6F⟩, ⟨0x0BE6, 0x0BEF⟩,
    ⟨0x0C66, 0x0C6F⟩, ⟨0x0CE6, 0x0CEF⟩, ⟨0x0D66, 0x0D6F⟩, ⟨0x0DE6, 0x0DEF⟩, ⟨0x0E50, 0x0E59⟩,
    ⟨0x0ED0, 0x0ED9⟩, ⟨0x0F20, 0x0F29⟩, ⟨0x1040, 0x1049⟩, ⟨0x1090, 0x1099⟩, ⟨0x17E0, 0x17E9⟩,
    ⟨0x1810, 0x1819⟩, ⟨0x1946, 0x194F⟩, ⟨0x19D0, 0x19D9⟩, ⟨0x1A80, 0x1A89⟩, ⟨0x1A90, 0x1A99⟩,
    ⟨0x1B50, 0x1B59⟩, ⟨0x1BB0, 0x1BB9⟩, ⟨0x1C40, 0x1C49⟩, ⟨0x1C50, 0x1C59⟩, ⟨0xA620, 0xA629⟩,
    ⟨0xA8D0, 0xA8D9⟩, ⟨0xA900, 0xA909⟩, ⟨0xA9D0, 0xA9D9⟩, ⟨0xA9F0, 0xA9F9⟩, ⟨0xAA50, 0xAA59⟩,
    ⟨0xABF0, 0xABF9⟩, ⟨0xFF10, 0xFF19⟩, ⟨0x104A0, 0x104A9⟩, ⟨0x10D30, 0x10D39⟩, ⟨0x11066, 0x1106F⟩,
    ⟨0x110F0, 0x110F9⟩, ⟨0x11136, 0x1113F⟩, ⟨0x111D0, 0x111D9⟩, ⟨0x112F0, 0x112F9⟩,
    ⟨0x11450, 0x11459⟩, ⟨0x114D0, 0x114D9⟩, ⟨0x11650, 0x11659⟩, ⟨0x116C0, 0x116C9⟩,
    ⟨0x11730, 0x11739⟩, ⟨0x118E0, 0x118E9⟩, ⟨0x11950, 0x11959⟩, ⟨0x11C50, 0x11C59⟩,
    ⟨0x11D50, 0x11D59⟩, ⟨0x11DA0, 0x11DA9⟩, ⟨0x16A60, 0x16A69⟩, ⟨0x16AC0, 0x16AC9⟩,
    ⟨0x16B50, 0x16B59⟩, ⟨0x1D7CE, 0x1D7FF⟩, ⟨0x1E140, 0x1E149⟩, ⟨0x1E2F0, 0x1E2F9⟩,
    ⟨0x1E950, 0x1E959⟩, ⟨0x1FBF0, 0x1FBF9⟩ ]

/-- Whether a character is a decimal digit of some script. -/
def isDecimalDigit (c : Char) : Bool := CodeRange.anyHas decimalDigitRanges c

/-! ## Lines of a text -/

/-- The characters that end a line. -/
def lineEnds : List CodeRange :=
  [⟨0x0A, 0x0D⟩, ⟨0x1C, 0x1E⟩, ⟨0x85, 0x85⟩, ⟨0x2028, 0x2029⟩]

/-- Whether a character ends a line. -/
def isLineEnd (c : Char) : Bool := CodeRange.anyHas lineEnds c

/-- A text with every carriage return, and the line feed that may follow it, made a line feed. -/
def unifyLineEnds : List Char → List Char
  | [] => []
  | '\r' :: '\n' :: rest => '\n' :: unifyLineEnds rest
  | '\r' :: rest => '\n' :: unifyLineEnds rest
  | c :: rest => c :: unifyLineEnds rest

/-- The lines of a text, where `current` is what has been read of the first of them, newest first. A
carriage return and a line feed behind it end one line together. -/
def linesFrom (current : List Char) : List Char → List (List Char)
  | [] => if current.isEmpty then [] else [current.reverse]
  | '\r' :: '\n' :: rest => current.reverse :: linesFrom [] rest
  -- a carriage return without a line feed behind it ends a line like any other
  | c :: rest =>
    if isLineEnd c then current.reverse :: linesFrom [] rest else linesFrom (c :: current) rest

/-- The lines of a text. -/
def lines (text : String) : List String := (linesFrom [] text.toList).map String.ofList

end Reckoner.Text
