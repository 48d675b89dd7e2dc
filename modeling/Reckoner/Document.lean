import Reckoner.Document.Code
import Reckoner.Document.Form
import Reckoner.Document.Node
import Reckoner.Json.Writer

/-!
# The library's types as texts

A text is first read as a document, and the document then as a value of the type asked for. Of a
text that is no document there is nothing more to say than that. Documents that nest too deeply are
refused like those that are malformed, wherever in them the depth is: also in a field that a later
one of the same name replaces.

In the other direction a value is written as the text of its document. There too depth is limited,
and the limit is a little higher: a tree that has been read can always be written.
-/

namespace Reckoner.Document

/-- What a text may be read as. -/
inductive Kind where
  | number
  | operation
  | push
  | apply
  | program
  deriving DecidableEq, Repr

/-- What has been read. -/
inductive Value where
  | tree (e : Expr)
  | instruction (i : Instruction)
  | program (p : Program)
  deriving DecidableEq, Repr

/-- Documents nest no deeper than 200 levels, no number has more than the greatest length before its
point, and a string is always a text. -/
def rules : Json.Rules := ⟨200, .ofWholeParts, .refuse⟩

/-- The document that a text is. -/
def document (text : String) : Validated Json :=
  match Json.ofChars rules text.toList with
  | .ok document => .ok document
  | .error _ => .error [.here .notJson]

/-- The value of a kind that a document is. -/
def ofJson : Kind → Json → Validated Value
  | .number, document => (number document).map .tree
  | .operation, document => (operation document).map .tree
  | .push, document => (push document).map .instruction
  | .apply, document => (apply document).map .instruction
  | .program, document => (program document).map .program

/-- The value of a kind that a text spells. -/
def read (kind : Kind) (text : String) : Validated Value :=
  match document text with
  | .ok document => ofJson kind document
  | .error issues => .error issues

/-- The document of a value. -/
def Value.toJson : Value → Json
  | .tree e => e.toJson
  | .instruction i => i.toJson
  | .program p => p.toJson

/-! ## Writing -/

/-- Why a value has no text. -/
inductive Unwritable where
  | tooDeep
  deriving DecidableEq, Repr

/-- The wording of the reason. -/
def Unwritable.message : Unwritable → String
  | tooDeep => "Error serializing to JSON: ValueError: Maximum serialization depth exceeded"

/-- The greatest height of a tree that is written. -/
def maxHeight : Nat := 253

/-- The text of a value. -/
def write (value : Value) : Except Unwritable String :=
  match value with
  | .tree e => if e.height ≤ maxHeight then .ok e.toJson.written else .error .tooDeep
  | other => .ok other.toJson.written

/-! ## Changing -/

/-- The answer to any attempt to change a part of a value that has been read, known or unknown:
there is none that can be changed. -/
def Value.assign (_ : Value) (name : String) : Issue := ⟨.frozen, [.field name]⟩

end Reckoner.Document
