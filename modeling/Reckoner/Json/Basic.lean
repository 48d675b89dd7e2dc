import Reckoner.Binary64
import Reckoner.Text.CodePoint

/-!
# JSON documents

The data model of the documents that are read from requests and written as answers. Whole numbers
and numbers with a fraction or exponent are different kinds, because only the first are unbounded.
A string may be spelled with half of a surrogate pair in it, and the name of a field may be, too. No
text holds that, so such strings are a kind of their own and keep their code points. The fields of
an object are kept in the order of their first occurrence, and a name occurs once.
-/

namespace Reckoner

/-- A JSON document. -/
inductive Json where
  | null
  | bool (value : Bool)
  | integer (value : Int)
  | float (value : Binary64)
  | string (value : String)
  /-- A string that holds half of a surrogate pair without the other half. -/
  | unpaired (value : Text.Unpaired)
  | array (items : List Json)
  | object (fields : List (Text.Raw × Json))
  deriving Repr, Inhabited

namespace Json

/-- The fields of an object. -/
abbrev Fields := List (Text.Raw × Json)

/-- The document that a string is. -/
def ofRaw : Text.Raw → Json
  | .text s => .string s
  | .unpaired u => .unpaired u

/-- The value of a field in a list of fields. -/
def field? (fields : Fields) (name : String) : Option Json :=
  fields.lookup (.text name)

/-- Gives a field a value. A field that is already there keeps its place and loses its old value. -/
def setField (name : Text.Raw) (value : Json) : Fields → Fields
  | [] => [(name, value)]
  | (other, old) :: rest =>
    if other = name then (name, value) :: rest else (other, old) :: setField name value rest

end Json

end Reckoner
