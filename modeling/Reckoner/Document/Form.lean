import Reckoner.Expr.Basic
import Reckoner.Json.Basic
import Reckoner.Program

/-!
# Trees and programs as documents

Every node and instruction is written as an object that starts with a tag. `Reckoner.Document.Node`
and `Reckoner.Document.Code` read these objects back, and they are less strict: the tag may be left
out, and fields may come in any order and in company.
-/

namespace Reckoner

/-- The document of a tree. A foreign leaf has none of its own and shows as null. -/
def Expr.toJson : Expr → Json
  | .number n => .object [("node_type", .string "number"), ("value", .integer n)]
  | .foreign _ => .null
  | .binary op l r =>
    .object [("node_type", .string "binop"), ("op", .string op.symbolText), ("left", l.toJson),
      ("right", r.toJson)]

/-- The document of an instruction. -/
def Instruction.toJson : Instruction → Json
  | .push n => .object [("kind", .string "push"), ("value", .integer n)]
  | .apply op => .object [("kind", .string "apply"), ("op", .string op.symbolText)]

/-- The document of a program. -/
def Program.toJson (p : Program) : Json :=
  .object [("instructions", .array (p.instructions.map Instruction.toJson))]

end Reckoner
