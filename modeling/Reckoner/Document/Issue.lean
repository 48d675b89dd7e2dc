import Reckoner.Operator
import Reckoner.Text.Spelling

/-!
# What is wrong with a document

Reading a document into a type of the library does not stop at the first thing it dislikes. Each
finding is an `Issue`: a fault, and the way that leads to the place from the outermost document. A
fault is a cause; its `code` is what programs tell it by and its `message` is for people.
-/

namespace Reckoner

/-- Why a value is refused. -/
inductive Fault where
  /-- A field that has to be there is not. -/
  | missing
  /-- An object was needed. -/
  | notObject
  /-- An object was needed by whoever reads its fields off. -/
  | notFields
  /-- An integer was needed, and the value is of a kind that none is made of. -/
  | notInteger
  /-- An integer was needed, and the text spells none. -/
  | notIntegerText
  /-- An integer was needed, and the text or number is too large to be made one. -/
  | hugeInteger
  /-- An integer was needed, and the number has a fraction. -/
  | fraction
  /-- An integer was needed, and the number is not finite. -/
  | notFinite
  /-- The integer is below the least one allowed. -/
  | below (least : Int)
  /-- The integer is above the greatest one allowed. -/
  | above (greatest : Int)
  /-- The symbol of an operator was needed. -/
  | notOperator
  /-- One of a few texts was needed. -/
  | notAmong (choices : List String)
  /-- An array was needed. -/
  | notArray
  /-- A text was needed. -/
  | notText
  /-- A text was needed, and the string has half of a surrogate pair in it. -/
  | notUnicode
  /-- The text has more characters than are allowed. -/
  | tooLong (limit : Nat)
  /-- The value cannot be changed. -/
  | frozen
  /-- The text is no document. -/
  | notJson
  deriving DecidableEq, Repr

/-- Alternatives in one phrase: commas between them, and a word before the last. -/
def alternatives : List String → String
  | [] => ""
  | [only] => only
  | [first, last] => first ++ " or " ++ last
  | first :: rest => first ++ ", " ++ alternatives rest

namespace Fault

/-- The word that names the kind of fault. -/
def code : Fault → String
  | missing => "missing"
  | notObject => "model_type"
  | notFields => "model_attributes_type"
  | notInteger => "int_type"
  | notIntegerText => "int_parsing"
  | hugeInteger => "int_parsing_size"
  | fraction => "int_from_float"
  | notFinite => "finite_number"
  | below _ => "greater_than_equal"
  | above _ => "less_than_equal"
  | notOperator => "enum"
  | notAmong _ => "literal_error"
  | notArray => "tuple_type"
  | notText => "string_type"
  | notUnicode => "string_unicode"
  | tooLong _ => "string_too_long"
  | frozen => "frozen_instance"
  | notJson => "json_invalid"

/-- The wording of the fault. -/
def message : Fault → String
  | missing => "Field required"
  | notObject => "Input should be an object"
  | notFields => "Input should be a valid dictionary or object to extract fields from"
  | notInteger => "Input should be a valid integer"
  | notIntegerText => "Input should be a valid integer, unable to parse string as an integer"
  | hugeInteger => "Unable to parse input string as an integer, exceeded maximum size"
  | fraction => "Input should be a valid integer, got a number with a fractional part"
  | notFinite => "Input should be a finite number"
  | below least => "Input should be greater than or equal to " ++ Text.decimal least
  | above greatest => "Input should be less than or equal to " ++ Text.decimal greatest
  | notOperator =>
    "Input should be " ++ alternatives (Operator.all.map fun op => Text.quoted op.symbolText)
  | notAmong choices => "Input should be " ++ alternatives (choices.map Text.quoted)
  | notArray => "Input should be a valid array"
  | notText => "Input should be a valid string"
  | notUnicode => "Input should be a valid string, unable to parse raw data as a unicode string"
  | tooLong limit => "String should have at most " ++ Text.decimal limit ++ " characters"
  | frozen => "Instance is frozen"
  | notJson => "JSON decode error"

end Fault

/-- A step into a document. -/
inductive Step where
  | field (name : String)
  | index (position : Nat)
  deriving DecidableEq, Repr

/-- One thing that is wrong with a document, and where. -/
structure Issue where
  fault : Fault
  location : List Step
  deriving DecidableEq, Repr

namespace Issue

/-- An issue with the document itself. -/
def here (fault : Fault) : Issue := ⟨fault, []⟩

/-- An issue seen from one step further out. -/
def under (step : Step) (issue : Issue) : Issue := ⟨issue.fault, step :: issue.location⟩

end Issue

/-- What is made of a document, or everything that is wrong with it. -/
abbrev Validated (α : Type) := Except (List Issue) α

namespace Validated

/-- A result seen from one step further out. -/
def under {α : Type} (step : Step) : Validated α → Validated α
  | .ok a => .ok a
  | .error issues => .error (issues.map (Issue.under step))

/-- Joins two results. The issues of both are kept, in order. -/
def both {α β : Type} : Validated α → Validated β → Validated (α × β)
  | .ok a, .ok b => .ok (a, b)
  | .ok _, .error issues => .error issues
  | .error issues, .ok _ => .error issues
  | .error issues, .error more => .error (issues ++ more)

end Validated

end Reckoner
