import Reckoner.Text.CodePoint

/-!
# The encoding of a body

A body does not say how it is encoded. It is a document, so its first character is an ASCII one, and
the zero bytes around that character tell wide units from narrow ones and one byte order from the
other. Without such zeros a body is UTF-8, and may then start with a mark that says so.
-/

namespace Reckoner.Service

/-- How a body is encoded. -/
inductive Encoding where
  | utf8
  | utf16 (order : Text.ByteOrder)
  | utf32 (order : Text.ByteOrder)
  deriving DecidableEq, Repr

/-- The encoding that the first bytes of a body speak for. -/
def Encoding.ofBytes : List UInt8 → Encoding
  | a :: b :: c :: d :: _ =>
    if a = 0 then if b = 0 then .utf32 .big else .utf16 .big
    else if b = 0 then if c = 0 ∧ d = 0 then .utf32 .little else .utf16 .little
    else .utf8
  | [a, b] => if a = 0 then .utf16 .big else if b = 0 then .utf16 .little else .utf8
  | _ => .utf8

/-- A text without the mark that may announce its encoding. -/
def withoutByteOrderMark : List Char → List Char
  | '\ufeff' :: rest => rest
  | s => s

/-- The code points of a body, which is given as if its bytes were UTF-8. There are none if the
encoding it seems to have does not fit the rest of it. Only wide units spell halves of pairs. -/
def decodedBody (body : String) : Option (List Text.CodePoint) :=
  let bytes := body.toUTF8.toList
  match Encoding.ofBytes bytes with
  | .utf8 => some ((withoutByteOrderMark body.toList).map .char)
  | .utf16 order => Text.decode16 order bytes
  | .utf32 order => Text.decode32 order bytes

end Reckoner.Service
