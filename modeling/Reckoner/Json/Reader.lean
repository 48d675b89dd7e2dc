import Reckoner.Json.Basic
import Reckoner.Text.CodePoint
import Reckoner.Text.Spelling

/-!
# Reading JSON

The reader works on the list of characters still to be read, and a failure carries the rest at the
point it speaks of. Offsets are derived from that rest at the end, by `offsetOf`.

Where a document may go on in several ways, the complaint names the first thing that was needed: an
object that has just been opened needs a name, an item that has ended needs a comma. The three
words `NaN`, `Infinity` and `-Infinity` are numbers. A string may hold any character that is no
control.

Readers differ in how deep they go, in how long a number they take, and in what they make of an
escape for half a surrogate pair. `Rules` holds these three decisions.

A text that came in wide units may have such halves in it as they are. Outside of strings a half is
as wrong as any other character beyond ASCII, so the replacement character does for it there. Inside
of strings the half itself is kept, and `Halves` says which characters of the text stand for one. An
escape and a half beside it never make up a pair.

Values nest through arrays and objects, so the three functions that read them call each other. They
take a supply of steps, one of which is used up by each call; between two calls at most one of them
reads nothing, so twice the length of the text is enough for every text.
-/

namespace Reckoner.Json

/-- Why a text is not a document. -/
inductive Reason where
  | valueExpected
  | nameExpected
  | colonExpected
  | commaExpected
  | trailingInput
  | unterminatedString
  | controlInString
  | badEscape
  | badCodePoint
  /-- A number is longer than any that is read. -/
  | tooManyDigits
  /-- Arrays and objects lie deeper in each other than is read. -/
  | tooDeep
  deriving DecidableEq, Repr

/-- The wording of a reason. -/
def Reason.text : Reason → String
  | valueExpected => "Expecting value"
  | nameExpected => "Expecting property name enclosed in double quotes"
  | colonExpected => "Expecting ':' delimiter"
  | commaExpected => "Expecting ',' delimiter"
  | trailingInput => "Extra data"
  | unterminatedString => "Unterminated string starting at"
  | controlInString => "Invalid control character at"
  | badEscape => "Invalid \\escape"
  | badCodePoint => "Invalid \\uXXXX escape"
  | tooManyDigits => "Exceeds the limit for integer string conversion"
  | tooDeep => "Exceeds the limit for nesting"

/-- A failure to read: the reason, and the rest of the text from the point of failure on. -/
structure Stop where
  reason : Reason
  rest : List Char
  deriving DecidableEq, Repr

/-- What was read, and the rest of the text. -/
abbrev Read (α : Type) := Except Stop (α × List Char)

/-- The characters that may stand between the parts of a document. -/
def isBlank (c : Char) : Bool := c = ' ' || c = '\t' || c = '\r' || c = '\n'

/-- The text without the blanks at its front. -/
def skipBlanks (s : List Char) : List Char := s.dropWhile isBlank

/-! ## Strings -/

/-- The value of a hexadecimal digit. -/
def hexDigit? (c : Char) : Option Nat :=
  if '0' ≤ c ∧ c ≤ '9' then some (c.toNat - '0'.toNat)
  else if 'a' ≤ c ∧ c ≤ 'f' then some (c.toNat - 'a'.toNat + 10)
  else if 'A' ≤ c ∧ c ≤ 'F' then some (c.toNat - 'A'.toNat + 10)
  else none

/-- The number that four hexadecimal digits denote. -/
def hex4? (a b c d : Char) : Option Nat := do
  return (((← hexDigit? a) * 16 + (← hexDigit? b)) * 16 + (← hexDigit? c)) * 16 + (← hexDigit? d)

/-- The number after a backslash and a `u`, if the rest of the text goes on behind it. -/
def codeUnit? : List Char → Option (Nat × List Char)
  | a :: b :: c :: d :: e :: rest => (hex4? a b c d).map fun n => (n, e :: rest)
  | _ => none

/-- The code point that an escape by code units denotes, which takes two of them if they are the
halves of a pair. The text starts behind the `u`. -/
def codePoint? (s : List Char) : Option (Text.CodePoint × List Char) :=
  match codeUnit? s with
  | none => none
  | some (n, rest) =>
    if Text.isHighHalf n then
      match rest with
      | '\\' :: 'u' :: rest' =>
        match codeUnit? rest' with
        | some (m, rest'') =>
          if Text.isLowHalf m then some (.char (Text.ofHalves n m), rest'')
          else some (.ofUnit n, rest)
        | none => some (.ofUnit n, rest)
      | _ => some (.ofUnit n, rest)
    else some (.ofUnit n, rest)

/-- The character that a letter stands for behind a backslash. -/
def escape? : Char → Option Char
  | '"' => some '"'
  | '\\' => some '\\'
  | '/' => some '/'
  | 'b' => some '\x08'
  | 'f' => some '\x0c'
  | 'n' => some '\n'
  | 'r' => some '\r'
  | 't' => some '\t'
  | _ => none

/-- What is done about an escape for half of a pair without its other half. -/
inductive LoneHalf where
  /-- The text is refused. -/
  | refuse
  /-- The half is kept, in a string that no text is. -/
  | keep
  deriving DecidableEq, Repr

/-- The characters of a text that stand for halves of pairs: for each of them the number of
characters behind it, and the half. -/
abbrev Halves := List (Nat × Text.Half)

/-- What the character in front of `rest` stands for. -/
def Halves.meant (halves : Halves) (c : Char) (rest : List Char) : Text.CodePoint :=
  match halves.find? fun (behind, _) => behind = rest.length with
  | some (_, half) => .half half
  | none => .char c

@[simp] theorem Halves.meant_nil (c : Char) (rest : List Char) :
    Halves.meant [] c rest = .char c := rfl

/-- Reads the inside of a string whose opening quote stands at the front of `opening`. What has been
read is kept newest first. -/
def stringLoop (lone : LoneHalf) (halves : Halves) (opening : List Char) :
    Nat → List Text.CodePoint → List Char → Read Text.Raw
  | 0, _, _ => .error ⟨.unterminatedString, opening⟩
  | _ + 1, _, [] => .error ⟨.unterminatedString, opening⟩
  | steps + 1, done, c :: rest =>
    if c = '"' then .ok (.ofPoints done.reverse, rest)
    else if c = '\\' then
      match rest with
      | [] => .error ⟨.unterminatedString, opening⟩
      | 'u' :: digits =>
        match codePoint? digits with
        | some (point, rest') =>
          if lone = .refuse ∧ point.isHalf then .error ⟨.badCodePoint, rest⟩
          else stringLoop lone halves opening steps (point :: done) rest'
        | none => .error ⟨.badCodePoint, rest⟩
      | e :: rest' =>
        match escape? e with
        | some d => stringLoop lone halves opening steps (.char d :: done) rest'
        | none => .error ⟨.badEscape, c :: rest⟩
    else if c.toNat < 0x20 then .error ⟨.controlInString, c :: rest⟩
    else stringLoop lone halves opening steps (halves.meant c rest :: done) rest

/-- Reads a string whose opening quote has been seen. -/
def string? (lone : LoneHalf) (halves : Halves) (inside : List Char) : Read Text.Raw :=
  stringLoop lone halves ('"' :: inside) (inside.length + 1) [] inside

/-! ## Numbers -/

/-- The greatest length a number may have, where its length is limited. -/
def maxNumberLength : Nat := 4300

/-- What counts as the length of a number. -/
inductive Length where
  /-- The digits of a whole number. Other numbers may be of any length. -/
  | ofIntegers
  /-- All that stands before the point or the exponent of any number, a sign included. -/
  | ofWholeParts
  deriving DecidableEq, Repr

/-- Splits off the digits at the front. -/
def digits (s : List Char) : List Char × List Char := s.span Char.isDigit

/-- Splits off a point and the digits behind it. A point without a digit is left where it is. -/
def fraction (s : List Char) : List Char × List Char :=
  match s with
  | '.' :: rest => if (digits rest).1.isEmpty then ([], s) else digits rest
  | _ => ([], s)

/-- Splits off an exponent. A mark without a digit is left where it is. -/
def exponent (s : List Char) : Option Int × List Char :=
  match s with
  | [] => (none, s)
  | mark :: rest =>
    if mark = 'e' ∨ mark = 'E' then
      let (negative, unsigned) :=
        match rest with
        | '-' :: rest' => (true, rest')
        | '+' :: rest' => (false, rest')
        | _ => (false, rest)
      match digits unsigned with
      | ([], _) => (none, s)
      | (ds, rest') =>
        let n : Int := Text.ofDigits ds
        (some (if negative then -n else n), rest')
    else (none, s)

/-- Whether a number is too long, given its sign, its digits before the point, and whether it is a
whole number. -/
def Length.exceeded (length : Length) (negative : Bool) (ds : List Char) (whole : Bool) : Bool :=
  match length with
  | .ofIntegers => whole && maxNumberLength < ds.length
  | .ofWholeParts => maxNumberLength < ds.length + negative.toNat

/-- Reads a number without its sign. `s` is where the number, sign included, starts. -/
def unsignedNumber (length : Length) (s : List Char) (negative : Bool) (magnitude : List Char) :
    Read Json :=
  let front : List Char × List Char :=
    match magnitude with
    | '0' :: rest => (['0'], rest)
    | _ => digits magnitude
  match front with
  | ([], _) => .error ⟨.valueExpected, s⟩
  | (ds, rest) =>
    let (places, rest) := fraction rest
    let (power, rest) := exponent rest
    let whole := places.isEmpty && power.isNone
    if length.exceeded negative ds whole then .error ⟨.tooManyDigits, s⟩
    else if whole then
      let n : Int := Text.ofDigits ds
      .ok (.integer (if negative then -n else n), rest)
    else
      .ok (.float (.ofDecimal negative (Text.ofDigits (ds ++ places))
        (power.getD 0 - places.length)), rest)

/-- Reads a number. -/
def number? (length : Length) (s : List Char) : Read Json :=
  match s with
  | '-' :: rest => unsignedNumber length s true rest
  | _ => unsignedNumber length s false s

/-! ## Words -/

/-- The words that are documents. -/
def words : List (List Char × Json) :=
  [ ("null".toList, .null), ("true".toList, .bool true), ("false".toList, .bool false),
    ("NaN".toList, .float .nan), ("Infinity".toList, .float (.infinite false)),
    ("-Infinity".toList, .float (.infinite true)) ]

/-- The word at the front of a text. -/
def word? (s : List Char) : Option (Json × List Char) :=
  words.findSome? fun (word, value) =>
    if word.isPrefixOf s then some (value, s.drop word.length) else none

/-! ## Values -/

/-- What a reader takes and what it refuses. -/
structure Rules where
  /-- How many arrays and objects may lie around a value. One that is empty lies around none. -/
  maxNesting : Nat
  length : Length
  lone : LoneHalf
  deriving DecidableEq, Repr

mutual

/-- Reads a value, which has to start at the very front and may hold `levels` more levels of arrays
and objects. -/
def value? (rules : Rules) (halves : Halves) : Nat → Nat → List Char → Read Json
  | 0, _, s => .error ⟨.valueExpected, s⟩
  | steps + 1, levels, s =>
    match s with
    | '"' :: inside =>
      (string? rules.lone halves inside).map fun (raw, rest) => (ofRaw raw, rest)
    | '[' :: inside =>
      match skipBlanks inside with
      | ']' :: rest => .ok (.array [], rest)
      | first =>
        if levels = 0 then .error ⟨.tooDeep, s⟩
        else items? rules halves steps (levels - 1) [] first
    | '\x7b' :: inside =>
      match skipBlanks inside with
      | '\x7d' :: rest => .ok (.object [], rest)
      | first =>
        if levels = 0 then .error ⟨.tooDeep, s⟩
        else fields? rules halves steps (levels - 1) [] first
    | _ =>
      match word? s with
      | some read => .ok read
      | none => number? rules.length s

/-- Reads the items of an array from the next one on. Those before it are given newest first. -/
def items? (rules : Rules) (halves : Halves) :
    Nat → Nat → List Json → List Char → Read Json
  | 0, _, _, s => .error ⟨.valueExpected, s⟩
  | steps + 1, levels, done, s =>
    match value? rules halves steps levels s with
    | .error stop => .error stop
    | .ok (item, rest) =>
      match skipBlanks rest with
      | ']' :: rest' => .ok (.array (item :: done).reverse, rest')
      | ',' :: rest' => items? rules halves steps levels (item :: done) (skipBlanks rest')
      | other => .error ⟨.commaExpected, other⟩

/-- Reads the fields of an object from the next one on. -/
def fields? (rules : Rules) (halves : Halves) :
    Nat → Nat → Fields → List Char → Read Json
  | 0, _, _, s => .error ⟨.nameExpected, s⟩
  | steps + 1, levels, done, s =>
    match s with
    | '"' :: inside =>
      match string? rules.lone halves inside with
      | .error stop => .error stop
      | .ok (name, rest) =>
        match skipBlanks rest with
        | ':' :: rest' =>
          match value? rules halves steps levels (skipBlanks rest') with
          | .error stop => .error stop
          | .ok (value, rest'') =>
            let done' := setField name value done
            match skipBlanks rest'' with
            | '\x7d' :: rest''' => .ok (.object done', rest''')
            | ',' :: rest''' => fields? rules halves steps levels done' (skipBlanks rest''')
            | other => .error ⟨.commaExpected, other⟩
        | other => .error ⟨.colonExpected, other⟩
    | _ => .error ⟨.nameExpected, s⟩

end

/-- The characters of code points that stand for halves. -/
def halvesIn : List Text.CodePoint → Halves
  | [] => []
  | .char _ :: rest => halvesIn rest
  | .half half :: rest => (rest.length, half) :: halvesIn rest

/-- Reads a document that takes up all the code points. -/
def ofPoints (rules : Rules) (points : List Text.CodePoint) : Except Stop Json :=
  let s := points.map Text.CodePoint.shown
  match value? rules (halvesIn points) (2 * s.length + 2) rules.maxNesting (skipBlanks s) with
  | .error stop => .error stop
  | .ok (value, rest) =>
    match skipBlanks rest with
    | [] => .ok value
    | other => .error ⟨.trailingInput, other⟩

/-- Reads a document that takes up the whole text. -/
def ofChars (rules : Rules) (s : List Char) : Except Stop Json :=
  ofPoints rules (s.map .char)

/-- How many of so many characters stand before the point of failure. -/
def offsetOf (length : Nat) (stop : Stop) : Nat := length - stop.rest.length

/-! ## Texts without halves -/

theorem halvesIn_map_char (s : List Char) : halvesIn (s.map .char) = [] := by
  induction s with
  | nil => rfl
  | cons c s ih => exact ih

/-- A text is read as it stands. -/
theorem ofChars_eq (rules : Rules) (s : List Char) :
    ofChars rules s
      = match value? rules [] (2 * s.length + 2) rules.maxNesting (skipBlanks s) with
        | .error stop => .error stop
        | .ok (value, rest) =>
          match skipBlanks rest with
          | [] => .ok value
          | other => .error ⟨.trailingInput, other⟩ := by
  have hshown : (s.map Text.CodePoint.char).map Text.CodePoint.shown = s := by
    simp [Function.comp_def, Text.CodePoint.shown]
  rw [ofChars, ofPoints, halvesIn_map_char, hshown]

end Reckoner.Json
