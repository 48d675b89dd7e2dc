import Reckoner.Error
import Reckoner.Expr.Basic

/-!
# Reading expressions

`PrecedenceParser` reads a grammar of two levels, both associating to the left:

    expression = term (('+' | '-') term)*
    term       = number (('*' | '/') number)*
    number     = blank* digit+

Blanks are the space, the tab, the carriage return and the line feed. They may stand before every
number and operator and at the end. Digits are the ten of ASCII.

The reader works on the list of characters still to be read. Every function returns the rest it has
not consumed, and a failure carries the rest at the point it speaks of; rows and columns are derived
from that rest at the very end (`SyntaxError.ofStop`), so nothing on the way counts positions. A
number consumes at least one digit, which is what the two loops end by.

Along with a tree its height is kept. When an operator would build a tree higher than the bound, the
reader fails *at the operator* and only after its right operand has been read, so a fault inside
that operand is reported first. A number alone has height zero and passes every bound: it is never
compared with one. `_operator` and `_check_height` are part of the two loops here, which have their
outcomes as branches.

A name behind a description, such as `_term`, is that of the function it embeds.
-/

namespace Reckoner

/-- Why a text is not an expression. -/
inductive Parser.Reason where
  /-- A digit was needed. -/
  | numberExpected
  /-- A run of digits denotes a number beyond the greatest word. -/
  | literalOutOfRange
  /-- An expression has ended and the text has not. -/
  | trailingInput
  /-- An operator would build a tree of more levels than `bound`. -/
  | tooDeep (bound : Int)
  deriving DecidableEq, Repr

/-- The wording of a reason. -/
def Parser.Reason.text : Parser.Reason → String
  | numberExpected => "expected a number"
  | literalOutOfRange => "integer literal out of range"
  | trailingInput => "unexpected trailing input"
  | tooDeep bound => "expression nests deeper than " ++ Text.decimal bound ++ " levels"

/-- A failure to read: the reason, and the rest of the text from the point of failure on. -/
structure Parser.Stop where
  reason : Parser.Reason
  rest : List Char
  deriving DecidableEq, Repr

/-- What has been read of an expression: its tree, the height of the tree, and the rest of the
text. -/
structure Parser.Parsed where
  tree : Expr
  height : Nat
  rest : List Char
  deriving DecidableEq, Repr

namespace Parser

/-- The characters that may stand between the parts of an expression (`_WHITESPACE_RE`). -/
def isBlank (c : Char) : Bool := c = ' ' || c = '\t' || c = '\r' || c = '\n'

/-- The text without the blanks at its front (`_skip_whitespace`). -/
def skipBlanks (s : List Char) : List Char := s.dropWhile isBlank

/-- The digits of a run that count: those behind the zeros at its front, or one zero if there are
none. -/
def significant (digits : List Char) : List Char :=
  match digits.dropWhile (· = '0') with
  | [] => ['0']
  | c :: rest => c :: rest

/-- The value of a run of digits, unless it is beyond the greatest word. A run with more significant
digits than that word has is refused by its length, and its value is not asked for. Any other value
is asked for twice, to be compared and to be kept. -/
def literalConverting (digits : List Char) : Text.Converting (Option Nat) :=
  let run := significant digits
  if Word.maxDigits < run.length then .done none
  else .convert run fun n =>
    if Word.greatest < n then .done none
    else .convert run fun n => .done (some n)

/-- The value of a run of digits, unless it is beyond the greatest word. -/
def literal? (digits : List Char) : Option Nat := (literalConverting digits).result Text.ofDigits

/-- Reads a number (`_number`). It takes every digit there is. -/
def number (s : List Char) : Except Stop (Nat × List Char) :=
  match (skipBlanks s).takeWhile Char.isDigit with
  | [] => .error ⟨.numberExpected, skipBlanks s⟩
  | digit :: digits =>
    match literal? (digit :: digits) with
    | none => .error ⟨.literalOutOfRange, skipBlanks s⟩
    | some n => .ok (n, (skipBlanks s).dropWhile Char.isDigit)

/-! ### Reading consumes -/

theorem length_skipBlanks_le (s : List Char) : (skipBlanks s).length ≤ s.length :=
  (List.dropWhile_sublist isBlank).length_le

/-- A number that was read is gone from the rest. -/
theorem length_lt_of_number {s rest : List Char} {n : Nat} (h : number s = .ok (n, rest)) :
    rest.length < s.length := by
  unfold number at h
  split at h
  · cases h
  · rename_i digit digits hrun
    split at h
    · cases h
    · cases h
      have hsplit := congrArg List.length
        (List.takeWhile_append_dropWhile (p := Char.isDigit) (l := skipBlanks s))
      rw [List.length_append, hrun, List.length_cons] at hsplit
      have := length_skipBlanks_le s
      omega

/-! ### Terms -/

/-- Reads the operators of the higher level that follow `left`, a tree of the given height, and
their operands: the loop of `_term`. -/
def termLoop (bound : Int) (left : Expr) (height : Nat) (s : List Char) : Except Stop Parsed :=
  match _hs : skipBlanks s with
  | [] => .ok ⟨left, height, []⟩
  | c :: after =>
    match Operator.multiplicative? c with
    | none => .ok ⟨left, height, c :: after⟩
    | some op =>
      match _hn : number after with
      | .error stop => .error stop
      | .ok (n, rest) =>
        -- the operand has been read, and it is still the operator that is too deep
        if bound < (height + 1 : Nat) then .error ⟨.tooDeep bound, c :: after⟩
        else termLoop bound (.binary op left (.number n)) (height + 1) rest
termination_by s.length
decreasing_by
  have h₁ := length_skipBlanks_le s
  have h₂ := length_lt_of_number _hn
  rw [_hs, List.length_cons] at h₁
  omega

/-- Reads a term (`_term`). -/
def term (bound : Int) (s : List Char) : Except Stop Parsed :=
  match number s with
  | .error stop => .error stop
  | .ok (n, rest) => termLoop bound (.number n) 0 rest

theorem length_le_of_termLoop {bound : Int} {left : Expr} {height : Nat} {s : List Char}
    {p : Parsed} (h : termLoop bound left height s = .ok p) : p.rest.length ≤ s.length := by
  fun_induction termLoop bound left height s with
  | case1 => cases h; exact Nat.zero_le _
  | case2 left height s c after hs =>
    cases h
    have h₁ := length_skipBlanks_le s
    rw [hs] at h₁
    exact h₁
  | case3 => cases h
  | case4 => cases h
  | case5 left height s c after hs op hop n rest hn hle ih =>
    have h₁ := length_skipBlanks_le s
    have h₂ := length_lt_of_number hn
    have h₃ := ih h
    rw [hs, List.length_cons] at h₁
    omega

/-- A term that was read is gone from the rest. -/
theorem length_lt_of_term {bound : Int} {s : List Char} {p : Parsed}
    (h : term bound s = .ok p) : p.rest.length < s.length := by
  unfold term at h
  split at h
  · cases h
  · rename_i n rest hn
    exact Nat.lt_of_le_of_lt (length_le_of_termLoop h) (length_lt_of_number hn)

/-! ### Expressions -/

/-- Reads the operators of the lower level that follow `left`, a tree of the given height, and their
operands: the loop of `_expression`. -/
def expressionLoop (bound : Int) (left : Expr) (height : Nat) (s : List Char) :
    Except Stop Parsed :=
  match _hs : skipBlanks s with
  | [] => .ok ⟨left, height, []⟩
  | c :: after =>
    match Operator.additive? c with
    | none => .ok ⟨left, height, c :: after⟩
    | some op =>
      match _ht : term bound after with
      | .error stop => .error stop
      | .ok right =>
        if bound < (max height right.height + 1 : Nat) then .error ⟨.tooDeep bound, c :: after⟩
        else
          expressionLoop bound (.binary op left right.tree) (max height right.height + 1) right.rest
termination_by s.length
decreasing_by
  have h₁ := length_skipBlanks_le s
  have h₂ := length_lt_of_term _ht
  rw [_hs, List.length_cons] at h₁
  omega

/-- Reads an expression (`_expression`). -/
def expression (bound : Int) (s : List Char) : Except Stop Parsed :=
  match term bound s with
  | .error stop => .error stop
  | .ok p => expressionLoop bound p.tree p.height p.rest

/-- Reads an expression that takes up the whole text (`_Parser.parse`). -/
def parseChars (bound : Int) (s : List Char) : Except Stop Expr :=
  match expression bound s with
  | .error stop => .error stop
  | .ok p =>
    match skipBlanks p.rest with
    | [] => .ok p.tree
    | rest => .error ⟨.trailingInput, rest⟩

end Parser

/-! ### Positions -/

/-- A place in a text, by row and column. -/
structure Position where
  line : Nat
  column : Nat
  deriving DecidableEq, Repr

/-- The place right after a piece of text that starts at row 1, column 1. A line feed starts a new
row, and nothing else does. -/
def Position.after (read : List Char) : Position where
  line := 1 + read.count '\n'
  column := 1 + (read.reverse.takeWhile (· ≠ '\n')).length

/-- The report of a failure to read `text` (`_error`). What stands before the point of failure is
the text less the rest. -/
def SyntaxError.ofStop (text : List Char) (stop : Parser.Stop) : SyntaxError :=
  let place := Position.after (text.take (text.length - stop.rest.length))
  { reason := stop.reason.text
    line := place.line
    column := place.column
    fragment := String.ofList stop.rest }

/-- The tree of a text, when operators may nest `bound` levels deep (`PrecedenceParser.parse`). -/
def Parser.parse (bound : Int) (text : String) : Except SyntaxError Expr :=
  match Parser.parseChars bound text.toList with
  | .ok e => .ok e
  | .error stop => .error (.ofStop text.toList stop)

end Reckoner
