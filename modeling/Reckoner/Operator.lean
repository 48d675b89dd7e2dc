/-!
# The four operators

Everything this library computes is built from four binary operators. Each one carries three
spellings, and they are kept here and nowhere else: the *symbol* that an expression is written with,
the *mnemonic* that a program listing shows, and the *verb* that a diagnostic uses. The symbols are
pairwise different, so `Operator.ofChar?` inverts `Operator.symbol`.

Two levels of binding are told apart by `Operator.additive?` and `Operator.multiplicative?`. Between
them they recognise every symbol exactly once.
-/

namespace Reckoner

/-- A binary operator on integers (`Operator`). -/
inductive Operator where
  | add
  | sub
  | mul
  | div
  deriving DecidableEq, Repr

namespace Operator

/-- Every operator, in the order in which messages list them. -/
def all : List Operator := [.add, .sub, .mul, .div]

/-- The character an expression is written with. -/
def symbol : Operator → Char
  | .add => '+'
  | .sub => '-'
  | .mul => '*'
  | .div => '/'

/-- The symbol as a text of one character. -/
def symbolText (op : Operator) : String := String.singleton op.symbol

/-- The word a program listing shows for an instruction that applies the operator (`_MNEMONICS`). -/
def mnemonic : Operator → String
  | .add => "ADD"
  | .sub => "SUB"
  | .mul => "MUL"
  | .div => "DIV"

/-- The verb a diagnostic uses for the operation (`_OP_NAMES`). -/
def verb : Operator → String
  | .add => "add"
  | .sub => "subtract"
  | .mul => "multiply"
  | .div => "divide"

/-- The operator of the lower level that a character stands for (`_ADD_SUB`). -/
def additive? : Char → Option Operator
  | '+' => some .add
  | '-' => some .sub
  | _ => none

/-- The operator of the higher level that a character stands for (`_MUL_DIV`). -/
def multiplicative? : Char → Option Operator
  | '*' => some .mul
  | '/' => some .div
  | _ => none

/-- The operator of either level that a character stands for. -/
def ofChar? (c : Char) : Option Operator :=
  (additive? c).orElse fun _ => multiplicative? c

/-- The operator written as `text`, which must be its symbol and nothing else. -/
def ofSymbol? (text : String) : Option Operator :=
  all.find? fun op => op.symbolText == text

/-- The operator whose mnemonic is `text`. -/
def ofMnemonic? (text : String) : Option Operator :=
  all.find? fun op => op.mnemonic == text

@[simp] theorem ofChar?_symbol (op : Operator) : ofChar? op.symbol = some op := by
  cases op <;> rfl

@[simp] theorem ofMnemonic?_mnemonic (op : Operator) : ofMnemonic? op.mnemonic = some op := by
  cases op <;> decide

end Operator

end Reckoner
