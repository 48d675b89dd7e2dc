import Reckoner.Document.Form
import Reckoner.Service.Body
import Reckoner.Settings

/-!
# The service

Three places can be asked: `/health` for a sign of life, `/evaluate` for the value of a text and
`/compile` for its program. Whatever goes wrong becomes an answer. A fault in the text is the
client's, and so is an executor that does not exist; a fault in a program is the service's own.
-/

namespace Reckoner

/-- What the service needs to answer. -/
structure Service where
  settings : Settings
  vm : StackVm

namespace Service

/-! ## Starting -/

/-- Why the service cannot be started. -/
inductive Unstartable where
  | settings (cause : Settings.Unusable)
  | unknownLevel (cause : Log.Level.Unknown)
  deriving DecidableEq, Repr

/-- A service under the settings that the sources give (`create_app`). -/
def start (sources : Settings.Sources) (vm : StackVm) : Except Unstartable Service :=
  match Settings.ofSources sources with
  | .error cause => .error (.settings cause)
  | .ok settings =>
    match Log.Level.ofName settings.logLevel with
    | .error cause => .error (.unknownLevel cause)
    | .ok _ => .ok ⟨settings, vm⟩

/-! ## Failures -/

/-- The answer to a failure (`parse_error_handler`, `execution_error_handler`,
`compile_error_handler`). -/
def ofError : CalcError → Response
  | .parse cause =>
    .ofJson 422 <| .object
      [ ("detail", .string cause.message), ("line", .integer cause.line),
        ("column", .integer cause.column), ("fragment", .string cause.fragment) ]
  | .execution cause =>
    .ofJson (if cause.internal then 500 else 422) <| .object
      [ ("detail", .string cause.message),
        ("operation", (cause.operation.map Json.string).getD .null) ]
  | .compile cause => sentence 500 cause.message
  | .general text => sentence 500 text

/-! ## Places -/

/-- Answers that the service is well (`health`). -/
def health (service : Service) : Response :=
  .ofJson 200 <| .object
    [ ("status", .string "ok"),
      ("version", .string service.settings.appVersion),
      ("executors", .array (ExecutorKind.all.map fun kind => .string kind.name)) ]

/-- The executor that a request asks for. A name that is left out or empty asks for the default. -/
def executorNamed (service : Service) (name : Option Text.Raw) :
    Except UnknownExecutor ExecutorKind :=
  match name with
  | none => .ok service.settings.defaultExecutor
  | some name =>
    if name.isEmpty then .ok service.settings.defaultExecutor else ExecutorKind.ofName name

/-- The tree of a text. -/
def treeOf (service : Service) (text : String) : Except CalcError Expr :=
  match Parser.parse service.settings.maxDepth.levels text with
  | .ok e => .ok e
  | .error cause => .error (.parse cause)

/-- The value of a text. -/
def valueOf (service : Service) (kind : ExecutorKind) (text : String) : Except CalcError Int :=
  match service.treeOf text with
  | .ok e => ((service.settings.executor service.vm kind).execute e).value
  | .error cause => .error cause

/-- The program of a text. -/
def programOf (service : Service) (text : String) : Except CalcError Program :=
  match service.treeOf text with
  | .error cause => .error cause
  | .ok e =>
    match (service.vm.compile e).value with
    | .ok program => .ok program
    | .error cause => .error (.compile cause)

/-- Answers with the value of a text (`evaluate`). The executor is looked up before the text is
read. -/
def evaluate (service : Service) (fields : Json.Fields) : Response :=
  match evaluationIn fields with
  | .error findings => refused findings
  | .ok (text, name) =>
    match service.executorNamed name with
    | .error cause => sentence 404 cause.shortMessage
    | .ok kind =>
      match service.valueOf kind text with
      | .error cause => ofError cause
      | .ok value =>
        .ofJson 200 <| .object
          [ ("text", .string text), ("executor", .string kind.name), ("result", .integer value) ]

/-- Answers with the program of a text (`compile_expression`). -/
def compile (service : Service) (fields : Json.Fields) : Response :=
  match textIn fields with
  | .error findings => refused findings
  | .ok text =>
    match service.programOf text with
    | .error cause => ofError cause
    | .ok program =>
      .ofJson 200 <| .object
        [ ("text", .string text),
          ("instructions", .array (program.instructions.map Instruction.toJson)),
          ("listing", .array (program.listing.map Json.string)) ]

/-- Answers a request with what a place makes of its fields. -/
def withFields (r : Request) (answer : Json.Fields → Response) : Response :=
  match fieldsOf r with
  | .error response => response
  | .ok fields => answer fields

/-- The answer to a request, if the answer may have a body. -/
def answer (service : Service) (r : Request) : Response :=
  match r.place, r.method with
  | "/health", "GET" => service.health
  | "/evaluate", "POST" => withFields r service.evaluate
  | "/compile", "POST" => withFields r service.compile
  | place, _ =>
    if ["/health", "/evaluate", "/compile"].contains place then sentence 405 "Method Not Allowed"
    else sentence 404 "Not Found"

/-- The answer to a request. Who asks for the head of an answer gets it without a body. -/
def respond (service : Service) (r : Request) : Response :=
  if r.method = "HEAD" then { service.answer r with body := "" } else service.answer r

end Service

end Reckoner
