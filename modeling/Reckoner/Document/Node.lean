import Reckoner.Document.Scalar
import Reckoner.Expr.Basic

/-!
# Reading trees from documents

An object may be read as a number and as an operation, and the operands of an operation may be
either. Which one is meant is not decided by the tag alone: both readings are made, and where one of
them succeeds it is taken. If both do, the object has the three fields of an operation and the value
of a number, and the operation is preferred. If neither does, the issues of both are reported, each
under the name of the reading it belongs to.

Both readings of a document are made in one recursion, since an operation needs both readings of its
operands.
-/

namespace Reckoner.Document

/-- The two readings of a document. -/
structure Readings where
  asNumber : Validated Expr
  asOperation : Validated Expr

/-- The name under which the issues of a reading as a number are reported. -/
def numberReading : String := "NumberNode"

/-- The name under which the issues of a reading as an operation are reported. -/
def operationReading : String := "BinOpNode"

/-- The reading that is meant. -/
def Readings.resolve (r : Readings) : Validated Expr :=
  match r.asOperation, r.asNumber with
  -- three fields were found in place of one, so this is the fuller reading
  | .ok e, _ => .ok e
  | _, .ok e => .ok e
  | .error ofOperation, .error ofNumber =>
    .error (ofNumber.map (Issue.under (.field numberReading))
      ++ ofOperation.map (Issue.under (.field operationReading)))

/-- Reads fields as a number. -/
def numberOfFields (fields : Json.Fields) : Validated Expr :=
  (Validated.both (tag fields "node_type" "number") (required fields "value" word)).map
    fun (_, n) => .number n

/-- The operand in a field, given the readings of all fields. -/
def operand (readings : List (Text.Raw × Readings)) (name : String) : Validated Expr :=
  Validated.under (.field name) <|
    match readings.lookup (.text name) with
    | some r => r.resolve
    | none => .error [.here .missing]

/-- Reads fields as an operation, given the readings of all of them. -/
def operationOfFields (fields : Json.Fields) (readings : List (Text.Raw × Readings)) :
    Validated Expr :=
  (Validated.both (tag fields "node_type" "binop")
    (Validated.both (required fields "op" operator)
      (Validated.both (operand readings "left") (operand readings "right")))).map
    fun (_, op, l, r) => .binary op l r

mutual

/-- The two readings of a document. -/
def readings : Json → Readings
  | .object fields => ⟨numberOfFields fields, operationOfFields fields (fieldReadings fields)⟩
  | _ => ⟨.error [.here .notObject], .error [.here .notObject]⟩

/-- The two readings of the value of each field. -/
def fieldReadings : Json.Fields → List (Text.Raw × Readings)
  | [] => []
  | (name, value) :: rest => (name, readings value) :: fieldReadings rest

end

/-- The number that a document is. -/
def number (document : Json) : Validated Expr := (readings document).asNumber

/-- The operation that a document is. -/
def operation (document : Json) : Validated Expr := (readings document).asOperation

end Reckoner.Document
