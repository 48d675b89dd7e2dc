import Reckoner.Assignments
import Reckoner.Document.Scalar
import Reckoner.Executor
import Reckoner.File
import Reckoner.Text.Utf8

/-!
# Settings

A setting is looked for in several places, and the first one that has it decides: what was given
explicitly, the environment, a file of defaults, and last the default of the library. Only the value
that was found is looked at, so a bad value that is overridden does no harm; and an empty text is a
value like any other.

Names may be spelled in upper or lower case or a mixture. In the environment and in the file a
setting goes by its name with `RCALC_` in front, and if several spellings are there, the last one
counts. Among what was given explicitly it goes by its bare name, and the first spelling counts.

The file of defaults is read before anything is looked for, whether a value will come from it or
not. It need not be there, but if it is there and cannot be read, or is not UTF-8, then there are no
settings. A line of it that is no assignment is passed over. Whoever loads the file makes a note of
such a line in a log of its own, and that note is left aside here: it is no part of any output.
-/

namespace Reckoner

/-- The settings of a run (`Settings`). -/
structure Settings where
  /-- The name of the level from which on records are shown. -/
  logLevel : String := "INFO"
  /-- How deep operators may nest, for the parser and for the interpreter. -/
  maxDepth : DepthBound := .standard
  /-- The executor that is used unless another one is asked for. -/
  defaultExecutor : ExecutorKind := .interpreter
  appTitle : String := "rcalc"
  appVersion : String := "0.1.0"
  deriving DecidableEq, Repr

namespace Settings

/-- What is found in the place of the file of defaults. -/
inductive DefaultsFile where
  | absent
  /-- The system does not hand it out. -/
  | unreadable (cause : FileFault)
  | bytes (content : List UInt8)
  deriving DecidableEq, Repr

/-- What settings are made from. -/
structure Sources where
  explicit : List (String × Json) := []
  environment : List (String × String) := []
  file : DefaultsFile := .absent

/-- Why there are no settings. -/
inductive Unusable where
  /-- The file of defaults cannot be read. -/
  | unreadable (cause : FileFault)
  /-- The file of defaults is not UTF-8. -/
  | undecodable (cause : Text.Utf8.Fault)
  /-- Settings have values that they cannot have. -/
  | issues (issues : List Issue)
  deriving DecidableEq, Repr

/-- Where the file of defaults is looked for. -/
def defaultsPath : String := ".env"

/-- The places where settings are looked for, in the order of their precedence. -/
structure Places where
  explicit : List (String × Json) := []
  environment : List (String × String) := []
  defaults : List Assignment := []

/-- The places that the sources come to, once the file has been read. -/
def Sources.places (sources : Sources) : Except Unusable Places :=
  match sources.file with
  | .absent => .ok ⟨sources.explicit, sources.environment, []⟩
  | .unreadable cause => .error (.unreadable cause)
  | .bytes content =>
    match Text.Utf8.decode content with
    | .error cause => .error (.undecodable cause)
    | .ok chars =>
      .ok ⟨sources.explicit, sources.environment,
        Assignments.ofChars sources.environment (Text.unifyLineEnds chars)⟩

/-- The name of every setting. -/
def names : List String :=
  ["log_level", "max_depth", "default_executor", "app_title", "app_version"]

/-- The name of a setting in the environment, in lower case. -/
def variableName (setting : String) : String := "rcalc_" ++ setting

/-- The value of a variable, whose name may be spelled in any case. The last spelling counts. -/
def Places.inVariables? (listed : List Assignment) (setting : String) : Option Json :=
  ((listed.reverse.find? fun (name, _) => name.toLower = variableName setting).bind Prod.snd).map
    Json.string

/-- The value that was given explicitly. The first spelling counts. -/
def Places.given? (listed : List (String × Json)) (setting : String) : Option Json :=
  (listed.find? fun (name, _) => name.toLower = setting).map Prod.snd

/-- The value of a setting, from the first place that has it. -/
def Places.find? (places : Places) (setting : String) : Option Json :=
  (given? places.explicit setting).orElse fun _ =>
    (inVariables? (places.environment.map fun (name, value) => (name, some value)) setting).orElse
      fun _ => inVariables? places.defaults setting

/-- Reads a depth bound. -/
def depthBound (document : Json) : Validated DepthBound :=
  match Document.integer document with
  | .error issues => .error issues
  | .ok n =>
    if _low : n < 1 then .error [.here (.below 1)]
    else if _high : DepthBound.limit < n then .error [.here (.above DepthBound.limit)]
    else .ok ⟨n.toNat, by omega, by omega⟩

/-- Reads the name of an executor. -/
def executorKind (document : Json) : Validated ExecutorKind :=
  match Document.choice (ExecutorKind.all.map ExecutorKind.name) document with
  | .error issues => .error issues
  | .ok name =>
    match ExecutorKind.ofName? name with
    | some kind => .ok kind
    | none => .error [.here (.notAmong (ExecutorKind.all.map ExecutorKind.name))]

/-- Reads a setting if it is found anywhere. -/
def setting {α : Type} (places : Places) (name : String) (read : Json → Validated α)
    (otherwise : α) : Validated α :=
  match places.find? name with
  | some document => Validated.under (.field name) (read document)
  | none => .ok otherwise

/-- The settings that the places give. -/
def ofPlaces (places : Places) : Validated Settings :=
  let base : Settings := {}
  let read :=
    Validated.both (setting places "log_level" Document.text base.logLevel) <|
    Validated.both (setting places "max_depth" depthBound base.maxDepth) <|
    Validated.both (setting places "default_executor" executorKind base.defaultExecutor) <|
    Validated.both (setting places "app_title" Document.text base.appTitle)
      (setting places "app_version" Document.text base.appVersion)
  read.map fun (logLevel, maxDepth, defaultExecutor, appTitle, appVersion) =>
    { logLevel, maxDepth, defaultExecutor, appTitle, appVersion }

/-- The settings that the sources give. -/
def ofSources (sources : Sources) : Except Unusable Settings :=
  match sources.places with
  | .error cause => .error cause
  | .ok places =>
    match ofPlaces places with
    | .error issues => .error (.issues issues)
    | .ok settings => .ok settings

/-- The document of the settings. -/
def toJson (s : Settings) : Json :=
  .object
    [ ("log_level", .string s.logLevel),
      ("max_depth", .integer s.maxDepth.levels),
      ("default_executor", .string s.defaultExecutor.name),
      ("app_title", .string s.appTitle),
      ("app_version", .string s.appVersion) ]

/-- The executor of a kind under the settings. -/
def executor (s : Settings) (vm : StackVm) : ExecutorKind → Executor
  | .interpreter => .interpreter s.maxDepth
  | .vm => .vm vm

end Settings

namespace ExecutorKind

/-- Why an executor that was asked for by name cannot be had. -/
inductive Unavailable where
  | unknown (cause : UnknownExecutor)
  | settings (cause : Settings.Unusable)
  deriving DecidableEq, Repr

/-- The executor of a name (`get_executor`). The interpreter alone has a bound to be set; without
settings they are read from the sources, and only then. -/
def obtain (name : String) (settings : Option Settings) (sources : Settings.Sources) :
    Except Unavailable Executor :=
  match ofName name with
  | .error cause => .error (.unknown cause)
  | .ok .vm => .ok (.vm .standard)
  | .ok .interpreter =>
    match settings with
    | some s => .ok (.interpreter s.maxDepth)
    | none =>
      match Settings.ofSources sources with
      | .ok s => .ok (.interpreter s.maxDepth)
      | .error cause => .error (.settings cause)

end ExecutorKind

end Reckoner
