import Reckoner.Document.Scalar
import Reckoner.Program

/-!
# Reading programs from documents

As with the nodes of a tree, an object may be read as either of the two instructions. Where both
readings succeed the object has no tag, and it pushes its value.
-/

namespace Reckoner.Document

/-- Reads a document as an instruction that pushes a value. -/
def push : Json → Validated Instruction
  | .object fields =>
    (Validated.both (tag fields "kind" "push") (required fields "value" word)).map
      fun (_, n) => .push n
  | _ => .error [.here .notObject]

/-- Reads a document as an instruction that applies an operator. -/
def apply : Json → Validated Instruction
  | .object fields =>
    (Validated.both (tag fields "kind" "apply") (required fields "op" operator)).map
      fun (_, op) => .apply op
  | _ => .error [.here .notObject]

/-- The name under which the issues of a reading as a push are reported. -/
def pushReading : String := "PushNumber"

/-- The name under which the issues of a reading as an application are reported. -/
def applyReading : String := "ApplyOperator"

/-- The instruction that a document is. -/
def instruction (document : Json) : Validated Instruction :=
  match push document, apply document with
  | .ok i, _ => .ok i
  | _, .ok i => .ok i
  | .error ofPush, .error ofApply =>
    .error (ofPush.map (Issue.under (.field pushReading))
      ++ ofApply.map (Issue.under (.field applyReading)))

/-- The instructions that several documents are, the first of which has the given position. -/
def instructionsFrom (position : Nat) : List Json → Validated (List Instruction)
  | [] => .ok []
  | item :: rest =>
    (Validated.both (Validated.under (.index position) (instruction item))
      (instructionsFrom (position + 1) rest)).map fun (i, is) => i :: is

/-- The instructions that a document lists. -/
def instructions : Json → Validated (List Instruction)
  | .array items => instructionsFrom 0 items
  | _ => .error [.here .notArray]

/-- The program that a document is. Without a list of instructions it is the empty one. -/
def program : Json → Validated Program
  | .object fields =>
    Validated.under (.field "instructions") <|
      match Json.field? fields "instructions" with
      | some value => (instructions value).map Program.mk
      | none => .ok .empty
  | _ => .error [.here .notObject]

end Reckoner.Document
