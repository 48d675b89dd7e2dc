import Reckoner.Json.Writer
import Reckoner.Text.CharacterClass

/-!
# Requests and responses

What the service is asked and what it answers, without the transport. A body comes with the media
type it was sent under, and only a body that is sent as JSON, or under no type at all, is read as a
document.

A body is the text whose UTF-8 was sent, so bytes that are no text's are no body here; one in wide
units is a text with zeros in it. The strings of a document are not restricted by this, since an
escape spells what no text holds.
-/

namespace Reckoner.Service

/-- A request. Its method is compared as it is spelled, and the known ones are in upper case. -/
structure Request where
  method : String
  path : String
  mediaType : Option String := none
  body : String := ""
  deriving DecidableEq, Repr

/-- A response. -/
structure Response where
  status : Nat
  body : String
  deriving DecidableEq, Repr

/-- The response of a service that has failed to make one. -/
def Response.breakdown : Response := ⟨500, "Internal Server Error"⟩

/-- A response whose body is a document. One that cannot be written makes no response. -/
def Response.ofJson (status : Nat) (document : Json) : Response :=
  if document.writable then ⟨status, document.written⟩ else .breakdown

/-- The path without a query or a fragment. -/
def Request.place (r : Request) : String :=
  String.ofList (r.path.toList.takeWhile fun c => c ≠ '?' && c ≠ '#')

/-- A media type without its parameters, in lower case. -/
def bareMediaType (mediaType : String) : String :=
  let essence := mediaType.toList.takeWhile (· ≠ ';')
  String.ofList ((Text.trimmed Text.isBlank essence).map Char.toLower)

/-- Whether a media type says that a body is JSON: it is JSON itself or built on it, and none at all
says so too. -/
def isJsonType : Option String → Bool
  | none => true
  | some mediaType =>
    mediaType.isEmpty ||
      match (bareMediaType mediaType).splitOn "/" with
      | ["application", subtype] => subtype = "json" || "+json".toList.isSuffixOf subtype.toList
      | _ => false

end Reckoner.Service
