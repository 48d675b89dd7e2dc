import Reckoner.Json.Basic
import Reckoner.Text.CodePoint
import Reckoner.Text.Spelling

/-!
# Writing JSON

Documents are written without any space between their parts. Inside a string only the double quote,
the backslash and the controls below the space are escaped, five of the controls by a letter and the
others by four hexadecimal digits; every other character stands for itself.

Not every document that can be read is one that the format has a spelling for. Those that are
`writable` have finite numbers only and neither a string nor a name with half of a pair in it; of
the others `written` gives the spelling that comes nearest.
-/

namespace Reckoner.Json

/-- A character as it stands inside a string. -/
def escapedChar (c : Char) : List Char :=
  match c with
  | '"' => ['\\', '"']
  | '\\' => ['\\', '\\']
  | '\x08' => ['\\', 'b']
  | '\t' => ['\\', 't']
  | '\n' => ['\\', 'n']
  | '\x0c' => ['\\', 'f']
  | '\r' => ['\\', 'r']
  | c => if c.toNat < 0x20 then '\\' :: 'u' :: Text.hex 4 c.toNat else [c]

/-- A string with its quotes. -/
def writtenString (s : String) : String :=
  String.ofList ('"' :: (s.toList.flatMap escapedChar ++ ['"']))

mutual

/-- The text of a document. -/
def written : Json → String
  | null => "null"
  | bool true => "true"
  | bool false => "false"
  | integer n => Text.decimal n
  | float x => x.text
  | string s => writtenString s
  | unpaired u => writtenString (Text.Raw.unpaired u).shown
  | array items => "[" ++ ",".intercalate (writtenItems items) ++ "]"
  | object fields => "\x7b" ++ ",".intercalate (writtenFields fields) ++ "\x7d"

/-- The texts of several documents. -/
def writtenItems : List Json → List String
  | [] => []
  | item :: rest => item.written :: writtenItems rest

/-- The texts of several fields. -/
def writtenFields : Fields → List String
  | [] => []
  | (name, value) :: rest =>
    (writtenString name.shown ++ ":" ++ value.written) :: writtenFields rest

end

/-! ## What can be written -/

mutual

/-- Whether the format has a spelling for a document. -/
def writable : Json → Bool
  | float x => x.isFinite
  | unpaired _ => false
  | array items => writableItems items
  | object fields => writableFields fields
  | _ => true

/-- Whether the format has a spelling for every one of several documents. -/
def writableItems : List Json → Bool
  | [] => true
  | item :: rest => item.writable && writableItems rest

/-- Whether the format has a spelling for several fields. -/
def writableFields : Fields → Bool
  | [] => true
  | (name, value) :: rest => name.isText && value.writable && writableFields rest

end

end Reckoner.Json
