/-!
# Code points, surrogate pairs and wide units

A character beyond the first 65536 code points is spelled by two code units of sixteen bits, the
halves of a surrogate pair. The numbers that serve as halves denote no character by themselves, so a
half that has lost its partner is no text. Documents and the encodings by wide units can spell such
a half nevertheless. Where that matters, what they hold is a list of code points (`CodePoint`), and
a string that is to be kept as it came is either a text or has unpaired halves in it (`Raw`).

In UTF-16 and UTF-32 a text is a sequence of units of two or four bytes, and the order of the bytes
in a unit has to be known. Decoding first puts the bytes together, which fails if the last unit is
incomplete, and then reads the units: in UTF-32 one for a code point, in UTF-16 one or a pair. A
half without its partner is let through by both.
-/

namespace Reckoner.Text

/-! ## Surrogate pairs -/

/-- Whether a code unit is the first half of a pair. -/
def isHighHalf (n : Nat) : Bool := 0xD800 ≤ n && n < 0xDC00

/-- Whether a code unit is the second half of a pair. -/
def isLowHalf (n : Nat) : Bool := 0xDC00 ≤ n && n < 0xE000

/-- The character that the two halves of a pair spell. -/
def ofHalves (high low : Nat) : Char :=
  Char.ofNat (0x10000 + (high - 0xD800) * 0x400 + (low - 0xDC00))

/-- The character that is shown in the place of something that is none. -/
def replacement : Char := '\ufffd'

/-! ## Code points -/

/-- Half of a surrogate pair that stands by itself. -/
structure Half where
  number : Nat
  isHalf : (isHighHalf number || isLowHalf number) = true
  deriving DecidableEq, Repr

/-- A code point. -/
inductive CodePoint where
  | char (c : Char)
  | half (half : Half)
  deriving DecidableEq, Repr

namespace CodePoint

/-- Whether a code point is half of a pair. -/
def isHalf : CodePoint → Bool
  | char _ => false
  | half _ => true

/-- The character that is shown for a code point. -/
def shown : CodePoint → Char
  | char c => c
  | half _ => replacement

/-- The code point that a unit denotes by itself. -/
def ofUnit (n : Nat) : CodePoint :=
  if h : (isHighHalf n || isLowHalf n) = true then .half ⟨n, h⟩ else .char (Char.ofNat n)

end CodePoint

/-- Code points that no text consists of, because halves stand by themselves among them. -/
structure Unpaired where
  points : List CodePoint
  isUnpaired : points.any CodePoint.isHalf = true
  deriving DecidableEq, Repr

/-- What a string of a document holds: a text, or code points that are none. -/
inductive Raw where
  | text (text : String)
  | unpaired (unpaired : Unpaired)
  deriving DecidableEq, Repr

namespace Raw

instance : Coe String Raw := ⟨text⟩

/-- The string of the given code points. -/
def ofPoints (points : List CodePoint) : Raw :=
  if h : points.any CodePoint.isHalf = true then unpaired ⟨points, h⟩
  else text (String.ofList (points.map CodePoint.shown))

/-- How many code points there are. -/
def length : Raw → Nat
  | text s => s.length
  | unpaired u => u.points.length

/-- Whether there is no code point at all. -/
def isEmpty : Raw → Bool
  | text s => s.isEmpty
  | unpaired _ => false

/-- Whether the string is a text. -/
def isText : Raw → Bool
  | text _ => true
  | unpaired _ => false

/-- The text that is shown for the string. -/
def shown : Raw → String
  | text s => s
  | unpaired u => String.ofList (u.points.map CodePoint.shown)

@[simp] theorem isText_text (s : String) : (text s).isText = true := rfl

@[simp] theorem shown_text (s : String) : (text s).shown = s := rfl

/-- A text is shown as it is. -/
theorem text_shown {raw : Raw} (h : raw.isText = true) : text raw.shown = raw := by
  cases raw with
  | text s => rfl
  | unpaired u => cases h

/-- Characters are a text. -/
theorem ofPoints_map_char (s : List Char) :
    ofPoints (s.map CodePoint.char) = text (String.ofList s) := by
  have hnone : (s.map CodePoint.char).any CodePoint.isHalf = false := by
    simp [CodePoint.isHalf]
  have hshown : (s.map CodePoint.char).map CodePoint.shown = s := by
    simp [Function.comp_def, CodePoint.shown]
  rw [ofPoints, dif_neg (by simp [hnone]), hshown]

end Raw

/-! ## Wide units -/

/-- In which order the bytes of a unit come. -/
inductive ByteOrder where
  /-- The most significant byte first. -/
  | big
  /-- The least significant byte first. -/
  | little
  deriving DecidableEq, Repr

/-- The number that the bytes of a unit denote. -/
def ByteOrder.number (order : ByteOrder) (bytes : List UInt8) : Nat :=
  match order with
  | .big => bytes.foldl (fun n byte => n * 256 + byte.toNat) 0
  | .little => bytes.foldr (fun byte n => n * 256 + byte.toNat) 0

/-- The units of two bytes each. -/
def units16 (order : ByteOrder) : List UInt8 → Option (List Nat)
  | [] => some []
  | a :: b :: rest => (units16 order rest).map (order.number [a, b] :: ·)
  | [_] => none

/-- The units of four bytes each. -/
def units32 (order : ByteOrder) : List UInt8 → Option (List Nat)
  | [] => some []
  | a :: b :: c :: d :: rest => (units32 order rest).map (order.number [a, b, c, d] :: ·)
  | _ => none

/-- The code points that units of UTF-16 spell. -/
def ofUnits16 : List Nat → List CodePoint
  | [] => []
  | [n] => [.ofUnit n]
  | high :: low :: rest =>
    if isHighHalf high && isLowHalf low then .char (ofHalves high low) :: ofUnits16 rest
    else .ofUnit high :: ofUnits16 (low :: rest)

/-- The code points that units of UTF-32 spell. Beyond the last code point there is none, and two
halves side by side remain two. -/
def ofUnits32 (units : List Nat) : Option (List CodePoint) :=
  if units.all (· ≤ 0x10FFFF) then some (units.map .ofUnit) else none

/-- The code points that bytes encode in UTF-16. -/
def decode16 (order : ByteOrder) (bytes : List UInt8) : Option (List CodePoint) :=
  (units16 order bytes).map ofUnits16

/-- The code points that bytes encode in UTF-32. -/
def decode32 (order : ByteOrder) (bytes : List UInt8) : Option (List CodePoint) :=
  (units32 order bytes).bind ofUnits32

end Reckoner.Text
