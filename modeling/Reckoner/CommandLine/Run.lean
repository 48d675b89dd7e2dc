import Reckoner.CommandLine.Table
import Reckoner.CommandLine.Usage
import Reckoner.File
import Reckoner.Settings
import Reckoner.Text.CharacterClass
import Reckoner.Text.Utf8

/-!
# The program

A run is a function of its arguments and of its surroundings: the sources of settings, the files it
can read, what stands on the standard input, and the virtual machine in use. It ends with an exit
code, or with a fault for which there is no orderly way out; in both cases something may have been
put out before. Arguments, variables and the standard input are texts here: they are taken as they
have been decoded, and only files bring their bytes.

Output is a list of what was said, in order: printed lines, complaints, and records of the log. It
is divided into the two streams at the end.

When several expressions are evaluated each line is one of its own. A line that fails is complained
about and the next one is taken up, and the exit code tells whether all went well.
-/

namespace Reckoner.CommandLine

/-- Everything a run depends on apart from its arguments. -/
structure Surroundings where
  sources : Settings.Sources := {}
  bytesOf : String → Except FileFault (List UInt8) := fun _ => .error .notFound
  stdin : String := ""
  vm : StackVm := .standard

/-! ## Output -/

/-- One thing said. -/
inductive Output where
  /-- A line on the standard output. -/
  | line (text : String)
  /-- A line on the standard error output. -/
  | errorLine (text : String)
  deriving DecidableEq, Repr

namespace Output

/-- A complaint (`_fail`). -/
def complaint (message : String) : Output := .errorLine ("error: " ++ message)

/-- The records that a threshold lets through. -/
def ofRecords (threshold : Log.Level) (records : List Log.Record) : List Output :=
  (records.filter fun r => threshold.admits r.level).map fun r => .errorLine r.line

/-- What an output puts on the standard output. -/
def stdout : Output → String
  | line text => text ++ "\n"
  | errorLine _ => ""

/-- What an output puts on the standard error output. -/
def stderr : Output → String
  | line _ => ""
  | errorLine text => text ++ "\n"

end Output

/-- What a run cannot deal with. -/
inductive Breakdown where
  /-- The file of defaults cannot be read. -/
  | unreadableDefaults (cause : FileFault)
  | unknownLevel (cause : Log.Level.Unknown)
  /-- A file that is read is not UTF-8. -/
  | undecodable (cause : Text.Utf8.Fault)
  /-- A path holds the character that ends one. -/
  | nulInPath
  deriving DecidableEq, Repr

/-- The wording of a breakdown. -/
def Breakdown.message : Breakdown → String
  | unreadableDefaults cause => cause.message Settings.defaultsPath
  | unknownLevel cause => cause.message
  | undecodable cause => cause.message
  | nulInPath => "embedded null byte"

/-- How a run ends. -/
inductive Ending where
  | exit (code : Nat)
  | breakdown (cause : Breakdown)
  deriving DecidableEq, Repr

/-- A run from its start to its end. -/
structure Outcome where
  output : List Output
  ending : Ending
  deriving DecidableEq, Repr

namespace Outcome

/-- What the run put on the standard output. -/
def stdout (o : Outcome) : String := String.join (o.output.map Output.stdout)

/-- What the run put on the standard error output. -/
def stderr (o : Outcome) : String := String.join (o.output.map Output.stderr)

/-- The run ends with a complaint and nothing else. -/
def failing (message : String) : Outcome := ⟨[.complaint message], .exit 1⟩

end Outcome

/-! ## Input -/

/-- Why there is no text to work on. -/
inductive InputFailure where
  | unreadable (path : String) (cause : FileFault)
  | breakdown (cause : Breakdown)
  deriving DecidableEq, Repr

/-- The outcome of a run without a text to work on. -/
def InputFailure.outcome : InputFailure → Outcome
  | unreadable path cause => .failing ("cannot read file: " ++ cause.message path)
  | breakdown cause => ⟨[], .breakdown cause⟩

/-- The text of a file. -/
def fileText (world : Surroundings) (name : String) : Except InputFailure String :=
  if name.toList.contains '\x00' then .error (.breakdown .nulInPath)
  else
    match world.bytesOf (tidyPath name) with
    | .error cause => .error (.unreadable (tidyPath name) cause)
    | .ok bytes =>
      match Text.Utf8.decode bytes with
      | .error cause => .error (.breakdown (.undecodable cause))
      | .ok chars => .ok (String.ofList (Text.unifyLineEnds chars))

/-- A text that was given and is not empty. -/
def nonempty? (given : Option String) : Option String := given.filter fun s => !s.isEmpty

/-- The text to work on: the one that was given, else that of the file that was named, else the
standard input (`_read_text`). An empty text and an empty name count as none. -/
def inputText (world : Surroundings) (request : Request) : Except InputFailure String :=
  match nonempty? request.text with
  | some text => .ok text
  | none =>
    match nonempty? request.file with
    | some name => fileText world name
    | none => .ok (String.ofList (Text.unifyLineEnds world.stdin.toList))

/-! ## Commands -/

/-- The values of a tree under several executors, up to the first one that fails. -/
def executeAll (executors : List Executor) (e : Expr) :
    Logged (Except CalcError (List (ExecutorKind × Int))) :=
  match executors with
  | [] => .quietly (.ok [])
  | executor :: rest => do
    match ← executor.execute e with
    | .error cause => return .error cause
    | .ok value =>
      match ← executeAll rest e with
      | .error cause => return .error cause
      | .ok values => return .ok ((executor.kind, value) :: values)

/-- The values of a line under several executors. -/
def evaluateLine (settings : Settings) (executors : List Executor) (line : String) :
    Logged (Except CalcError (List (ExecutorKind × Int))) := do
  match ← Parser.parseNoted settings.maxDepth.levels line with
  | .error cause => return .error (.parse cause)
  | .ok e => executeAll executors e

/-- The values of several executors in one phrase. -/
def valuesPhrase (values : List (ExecutorKind × Int)) : String :=
  ", ".intercalate (values.map fun (kind, value) => kind.name ++ "=" ++ Text.decimal value)

/-- The report on a line, and whether it went well. Values that differ do not. -/
def reportLine (threshold : Log.Level) (line : String) :
    Except CalcError (List (ExecutorKind × Int)) → List Output × Bool
  | .error cause => ([.complaint cause.message], false)
  | .ok [] => ([], true)
  | .ok ((kind, value) :: rest) =>
    -- with a single executor there is nothing to differ from
    if rest.all fun other => other.2 = value then ([.line (Text.decimal value)], true)
    else
      let phrase := valuesPhrase ((kind, value) :: rest)
      let record : Log.Record :=
        ⟨.warning, "rcalc.cli",
          "Executors disagree on " ++ Text.quoted line ++ ": " ++ phrase⟩
      (Output.ofRecords threshold [record] ++ [.complaint ("executors disagree: " ++ phrase)],
        false)

/-- Evaluates a line and reports on it: a turn of the loop of `_eval`. -/
def evalLine (settings : Settings) (threshold : Log.Level) (executors : List Executor)
    (line : String) : List Output × Bool :=
  let evaluated := evaluateLine settings executors line
  let (report, good) := reportLine threshold line evaluated.value
  (Output.ofRecords threshold evaluated.records ++ report, good)

/-- The lines of a text that hold more than blanks. -/
def expressionLines (text : String) : List String :=
  (Text.lines text).filter fun line => !line.toList.all Text.isBlank

/-- Evaluates a text line by line (`_eval`). -/
def evalText (settings : Settings) (threshold : Log.Level) (executors : List Executor)
    (text : String) : Outcome :=
  match expressionLines text with
  | [] => .failing "podaj wyrażenie przez --text, --file lub stdin"
  | lines =>
    let reports := lines.map (evalLine settings threshold executors)
    ⟨reports.flatMap Prod.fst, .exit (if reports.all Prod.snd then 0 else 1)⟩

/-- Shows what a text comes to in a table, or complains: what `_parse` and `_compile` share. -/
def showText {α : Type} (threshold : Log.Level) (work : Logged (Except CalcError α))
    (table : α → List String) : Outcome :=
  let records := Output.ofRecords threshold work.records
  match work.value with
  | .error cause => ⟨records ++ [.complaint cause.message], .exit 1⟩
  | .ok a => ⟨records ++ (table a).map Output.line, .exit 0⟩

/-- The tree of a text. -/
def treeOfText (settings : Settings) (text : String) : Logged (Except CalcError Expr) := do
  match ← Parser.parseNoted settings.maxDepth.levels text with
  | .error cause => return .error (.parse cause)
  | .ok e => return .ok e

/-- The program of a text. -/
def programOfText (settings : Settings) (vm : StackVm) (text : String) :
    Logged (Except CalcError Program) := do
  match ← treeOfText settings text with
  | .error cause => return .error cause
  | .ok e =>
    match ← vm.compile e with
    | .error cause => return .error (.compile cause)
    | .ok p => return .ok p

/-- The executors that a call of `eval` uses. -/
def executorsFor (settings : Settings) (vm : StackVm) (request : Request) : List Executor :=
  let kinds :=
    if request.compare then ExecutorKind.all
    else [request.executor.getD settings.defaultExecutor]
  kinds.map (settings.executor vm)

/-- Performs a command on a text. -/
def perform (world : Surroundings) (settings : Settings) (threshold : Log.Level) (call : Call)
    (text : String) : Outcome :=
  match call.command with
  | .eval =>
    evalText settings threshold (executorsFor settings world.vm call.request) text
  | .parse => showText threshold (treeOfText settings text) treeTable
  | .compile => showText threshold (programOfText settings world.vm text) programTable

/-! ## Runs -/

/-- The complaint about settings that cannot be used. Only the first issue is named. -/
def configurationComplaint (issues : List Issue) : String :=
  match issues with
  | ⟨fault, .field name :: _⟩ :: _ =>
    "invalid configuration: " ++ name ++ ": " ++ fault.message
  | _ => "invalid configuration"

/-- The outcome of a run without settings (`_settings`). Only what is wrong with a value is
foreseen. -/
def unusableOutcome : Settings.Unusable → Outcome
  | .unreadable cause => ⟨[], .breakdown (.unreadableDefaults cause)⟩
  | .undecodable cause => ⟨[], .breakdown (.undecodable cause)⟩
  | .issues issues => .failing (configurationComplaint issues)

/-- Carries out a call. -/
def carryOut (world : Surroundings) (call : Call) : Outcome :=
  match Settings.ofSources world.sources with
  | .error cause => unusableOutcome cause
  | .ok settings =>
    match Log.Level.ofName settings.logLevel with
    | .error cause => ⟨[], .breakdown (.unknownLevel cause)⟩
    | .ok threshold =>
      match inputText world call.request with
      | .error failure => failure.outcome
      | .ok text => perform world settings threshold call text

/-- Runs the program (`main`). -/
def run (world : Surroundings) (arguments : List String) : Outcome :=
  match call arguments with
  | .error (.help scope) => ⟨(Scope.help scope).map Output.line, .exit 0⟩
  | .error (.complaint scope cause) =>
    ⟨(cause.report scope).map Output.errorLine, .exit 2⟩
  | .ok call => carryOut world call

theorem run_eq_carryOut {world : Surroundings} {arguments : List String} {c : Call}
    (hcall : call arguments = .ok c) : run world arguments = carryOut world c := by
  rw [run, hcall]

/-- The tidy path of the file that a run will read, if it will read one. -/
def fileWanted? (arguments : List String) : Option String :=
  match call arguments with
  | .error _ => none
  | .ok call =>
    match nonempty? call.request.text with
    | some _ => none
    | none => (nonempty? call.request.file).map tidyPath

end Reckoner.CommandLine
