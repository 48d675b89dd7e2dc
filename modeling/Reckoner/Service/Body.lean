import Reckoner.Document.Scalar
import Reckoner.Service.Encoding
import Reckoner.Service.Message

/-!
# Reading the body of a request

A body has to be an object with a text in it, and for an evaluation the name of an executor may
stand beside the text. Everything that is wrong with a body is listed in the answer (`Finding`),
each entry with the value that was refused.
-/

namespace Reckoner.Service

/-- One thing that is wrong with a body: the issue, the value that was refused, and what else there
is to know. -/
structure Finding where
  issue : Issue
  input : Json
  context : Json.Fields := []

/-- A step as it is listed. -/
def stepJson : Step → Json
  | .field name => .string name
  | .index position => .integer position

/-- The document of a finding. -/
def Finding.toJson (f : Finding) : Json :=
  let fields : Json.Fields :=
    [ ("type", .string f.issue.fault.code),
      ("loc", .array (f.issue.location.map stepJson)),
      ("msg", .string f.issue.fault.message),
      ("input", f.input) ]
  let context : Json.Fields := if f.context.isEmpty then [] else [("ctx", .object f.context)]
  .object (fields ++ context)

/-- The answer to a body that was refused. -/
def refused (findings : List Finding) : Response :=
  .ofJson 422 (.object [("detail", .array (findings.map Finding.toJson))])

/-- The answer that consists of one sentence. -/
def sentence (status : Nat) (text : String) : Response :=
  .ofJson status (.object [("detail", .string text)])

/-- A finding about the body as a whole. -/
def aboutBody (fault : Fault) (input : Json) : Finding := ⟨⟨fault, [.field "body"]⟩, input, []⟩

/-- A finding about a field of the body. -/
def aboutField (name : String) (fault : Fault) (input : Json) : Finding :=
  ⟨⟨fault, [.field "body", .field name]⟩, input, []⟩

/-! ## Documents -/

/-- The most characters that a text may have, in `EvaluateRequest` and `CompileRequest`. -/
def maxTextLength : Nat := 10000

/-- Bodies nest no deeper than 960 levels, whole numbers have no more than the greatest length, and
a string that is no text does no harm by itself. -/
def rules : Json.Rules := ⟨960, .ofIntegers, .keep⟩

/-- The answer to a body that cannot be read at all, which is less than being malformed. -/
def unreadable : Response := sentence 400 "There was an error parsing the body"

/-- The document in a body that is sent as JSON. -/
def documentOf (body : String) : Except Response Json :=
  match decodedBody body with
  | none => .error unreadable
  | some points =>
    match Json.ofPoints rules points with
    | .ok document => .ok document
    | .error stop =>
      if stop.reason = .tooManyDigits ∨ stop.reason = .tooDeep then .error unreadable
      else
        .error <| refused
          [ { issue := ⟨.notJson, [.field "body", .index (Json.offsetOf points.length stop)]⟩
              input := .object []
              context := [("error", .string stop.reason.text)] } ]

/-- The fields of the body of a request. -/
def fieldsOf (r : Request) : Except Response (Json.Fields) :=
  if r.body.isEmpty then .error (refused [aboutBody .missing .null])
  else
    match if isJsonType r.mediaType then documentOf r.body else .ok (.string r.body) with
    | .error response => .error response
    | .ok (.object fields) => .ok fields
    | .ok other => .error (refused [aboutBody .notFields other])

/-! ## Fields -/

/-- The text in a body. -/
def textIn (fields : Json.Fields) : Except (List Finding) String :=
  match Json.field? fields "text" with
  | none => .error [aboutField "text" .missing (.object fields)]
  | some (.string s) =>
    if maxTextLength < s.length then
      .error
        [ { aboutField "text" (.tooLong maxTextLength) (.string s) with
            context := [("max_length", .integer maxTextLength)] } ]
    else .ok s
  | some (.unpaired u) => .error [aboutField "text" .notUnicode (.unpaired u)]
  | some other => .error [aboutField "text" .notText other]

/-- The name of an executor in a body. It may be left out or null. Its length is not limited, so
nobody looks whether it is a text. -/
def executorIn (fields : Json.Fields) : Except (List Finding) (Option Text.Raw) :=
  match Json.field? fields "executor" with
  | none => .ok none
  | some .null => .ok none
  | some (.string s) => .ok (some (.text s))
  | some (.unpaired u) => .ok (some (.unpaired u))
  | some other => .error [aboutField "executor" .notText other]

/-- What a body asks to be evaluated, and by which executor (`EvaluateRequest`). -/
def evaluationIn (fields : Json.Fields) :
    Except (List Finding) (String × Option Text.Raw) :=
  match textIn fields, executorIn fields with
  | .ok text, .ok executor => .ok (text, executor)
  | .ok _, .error findings => .error findings
  | .error findings, .ok _ => .error findings
  | .error findings, .error more => .error (findings ++ more)

end Reckoner.Service
