import Reckoner.Document.Issue
import Reckoner.Json.Reader
import Reckoner.Text.CharacterClass
import Reckoner.Word

/-!
# Integers, texts and tags in documents

An integer may be given as a number, as a truth value, or as a text that spells one, and the text
may be spelled with some freedom: white space around it, a sign, leading zeros, single underscores
between digits, and a fraction that is zero. `integerOfText` says which texts are meant. Ranges are
looked at only after the integer is known.
-/

namespace Reckoner.Document

/-! ## Integers spelled in texts -/

/-- Reads a plain integer: an optional minus sign and digits without a needless zero in front. One
that is too long is noticed as such before whatever follows its digits is looked at. -/
def plainInteger (s : List Char) : Except Fault Int :=
  let (negative, magnitude) :=
    match s with
    | '-' :: rest => (true, rest)
    | _ => (false, s)
  let (digits, rest) := Json.digits magnitude
  if digits.isEmpty ∨ (digits.head? = some '0' ∧ 1 < digits.length) then .error .notIntegerText
  else if Json.maxNumberLength < s.length - rest.length then .error .hugeInteger
  else if !rest.isEmpty then .error .notIntegerText
  else
    let n : Int := Text.ofDigits digits
    .ok (if negative then -n else n)

/-- What is left of a numeral without the zeros at its front, underscores among them included. A
zero that nothing but a point follows is kept, and a minus sign may follow the zeros as well as a
digit. There is no result if anything else stands among the zeros. -/
def withoutLeadingZeros (last : Char) : List Char → Option (List Char)
  | [] => some [last]
  | c :: rest =>
    if c = '0' ∨ c = '_' then withoutLeadingZeros c rest
    else if c = '.' then some (last :: c :: rest)
    else if c = '-' ∨ c.isDigit then some (c :: rest)
    else none

/-- A numeral without the zeros at its front. -/
def normalFront : List Char → Option (List Char)
  | '0' :: rest => withoutLeadingZeros '0' rest
  | c :: rest => if c = '-' ∨ c.isDigit then some (c :: rest) else none
  | [] => none

/-- A numeral without a plus sign and the zeros at its front. A minus sign stays in front of what
the zeros leave, and there is none behind a plus sign. -/
def normalSign : List Char → Option (List Char)
  | '+' :: '-' :: _ => none
  | '+' :: rest => normalFront rest
  | '-' :: rest => (normalFront rest).map ('-' :: ·)
  | s => normalFront s

/-- A numeral without a point and the zeros that follow it, if there are any and nothing else. -/
def withoutZeroFraction (s : List Char) : List Char :=
  match s.span (· ≠ '.') with
  | (whole, _ :: places) => if !places.isEmpty && places.all (· = '0') then whole else s
  | _ => s

/-- Whether two underscores stand side by side. -/
def hasDoubleUnderscore : List Char → Bool
  | '_' :: '_' :: _ => true
  | _ :: rest => hasDoubleUnderscore rest
  | [] => false

/-- A numeral without its underscores, if all of them stand singly and inside. -/
def withoutUnderscores (s : List Char) : List Char :=
  if s.head? = some '_' ∨ s.getLast? = some '_' ∨ hasDoubleUnderscore s then s
  else s.filter (· ≠ '_')

/-- The plain spelling of an integer that is spelled with some freedom. -/
def plainSpelling (s : List Char) : Option (List Char) :=
  (normalSign (Text.trimmed Text.isWhiteSpace s)).map fun t =>
    withoutUnderscores (withoutZeroFraction t)

/-- The integer that a text spells. A text is taken as it stands first, and only then for a free
spelling; that it is too long is said of the text as it stands alone. -/
def integerOfText (text : String) : Validated Int :=
  match plainInteger text.toList with
  | .ok n => .ok n
  | .error .hugeInteger => .error [.here .hugeInteger]
  | .error _ =>
    match (plainSpelling text.toList).map plainInteger with
    | some (.ok n) => .ok n
    | _ => .error [.here .notIntegerText]

/-! ## Integers -/

/-- The integer that a number of the floating-point format is, if it is one and a word holds it. -/
def integerOfFloat (x : Binary64) : Validated Int :=
  match x with
  | .nan => .error [.here .notFinite]
  | .infinite _ => .error [.here .notFinite]
  | .finite .. =>
    match x.toInt? with
    | none => .error [.here .fraction]
    | some n =>
      -- the least word is left out here: rounding may have brought anything below it there
      if Word.least < n ∧ n ≤ Word.greatest then .ok n else .error [.here .hugeInteger]

/-- The integer that a document stands for. -/
def integer : Json → Validated Int
  | .integer n => .ok n
  | .bool b => .ok (if b then 1 else 0)
  | .float x => integerOfFloat x
  | .string text => integerOfText text
  | _ => .error [.here .notInteger]

/-- An integer between two limits. -/
def inLimits (least greatest n : Int) : Validated Int :=
  if n < least then .error [.here (.below least)]
  else if greatest < n then .error [.here (.above greatest)]
  else .ok n

/-- The integer between two limits that a document stands for. -/
def integerBetween (least greatest : Int) (document : Json) : Validated Int :=
  match integer document with
  | .ok n => inLimits least greatest n
  | .error issues => .error issues

/-- The word that a document stands for. -/
def word (document : Json) : Validated Int := integerBetween Word.least Word.greatest document

/-! ## Texts and tags -/

/-- The text that a document is. -/
def text : Json → Validated String
  | .string s => .ok s
  | _ => .error [.here .notText]

/-- One of a few texts. -/
def choice (choices : List String) : Json → Validated String
  | .string s => if choices.contains s then .ok s else .error [.here (.notAmong choices)]
  | _ => .error [.here (.notAmong choices)]

/-- The operator whose symbol a document is. -/
def operator : Json → Validated Operator
  | .string s =>
    match Operator.ofSymbol? s with
    | some op => .ok op
    | none => .error [.here .notOperator]
  | _ => .error [.here .notOperator]

/-! ## Fields -/

/-- Reads a field that has to be there. -/
def required {α : Type} (fields : Json.Fields) (name : String)
    (read : Json → Validated α) : Validated α :=
  Validated.under (.field name) <|
    match Json.field? fields name with
    | some value => read value
    | none => .error [.here .missing]

/-- Checks a tag, which may be left out. -/
def tag (fields : Json.Fields) (name expected : String) : Validated Unit :=
  Validated.under (.field name) <|
    match Json.field? fields name with
    | some value => (choice [expected] value).map fun _ => ()
    | none => .ok ()

end Reckoner.Document
