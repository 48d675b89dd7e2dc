import Reckoner.CommandLine.Run

/-!
# The executable

Everything a run depends on is read here, and everything it comes to is written here. What happens
in between is `Reckoner.CommandLine.run`. The file that a run names and the file of defaults are
read before the run, so that the run itself need not ask for them; what keeps one from being read is
handed to the run, which says what follows.
-/

namespace Reckoner.Executable

open CommandLine

/-- The fault that the system knows by a number, which it may give negated. -/
def faultOfCode (code : UInt32) (details : String) : FileFault :=
  match code.toInt32.toInt.natAbs with
  | 20 => .notDirectory
  | 21 => .isDirectory
  | 36 => .nameTooLong
  | number => .other number details

/-- What kept a file from being read. -/
def faultOf : IO.Error → FileFault
  | .noFileOrDirectory .. => .notFound
  | .inappropriateType _ code details => faultOfCode code details
  | .invalidArgument _ code details => faultOfCode code details
  | .permissionDenied _ code details => faultOfCode code details
  | .otherError code details => faultOfCode code details
  | other => .other 5 (toString other)

/-- Whether a fault says that there is no file, be it that something else is in its place or that a
link in its place leads nowhere. -/
def saysAbsent (fault : FileFault) : Bool :=
  fault = .notFound || fault = .notDirectory || fault = .isDirectory || fault.number = 40

/-- What is found in the place of the file of defaults. -/
def defaults : IO Settings.DefaultsFile := do
  try
    return .bytes (← IO.FS.readBinFile Settings.defaultsPath).toList
  catch e =>
    let fault := faultOf e
    return if saysAbsent fault then .absent else .unreadable fault

/-- The names that the file of defaults refers to. -/
def namesReferenced : Settings.DefaultsFile → List String
  | .bytes content =>
    match Text.Utf8.decode content with
    | .ok chars => Assignments.referenced (Text.unifyLineEnds chars)
    | .error _ => []
  | _ => []

/-- The variables of the environment that count: those that settings are read from, in upper or
lower case, and those that the file of defaults refers to. -/
def environment (file : Settings.DefaultsFile) : IO (List (String × String)) := do
  let spellings := Settings.names.flatMap fun setting =>
    [Settings.variableName setting, (Settings.variableName setting).toUpper]
  let found ← (spellings ++ namesReferenced file).mapM fun name =>
    return (← IO.getEnv name).map fun value => (name, value)
  return found.filterMap id

/-- The bytes of the file that a run will read. -/
def wantedBytes (arguments : List String) : IO (Except FileFault (List UInt8)) := do
  match fileWanted? arguments with
  | none => return .error .notFound
  | some path =>
    try
      return .ok (← IO.FS.readBinFile path).toList
    catch e => return .error (faultOf e)

/-- Everything that is still to be read from a stream, after what has been read. -/
partial def rest (stream : IO.FS.Stream) (before : ByteArray) : IO ByteArray := do
  let piece ← stream.read 65536
  if piece.isEmpty then return before else rest stream (before ++ piece)

/-- The text on the standard input, which is read only if the run has no other text. -/
def input (arguments : List String) : IO (Except Text.Utf8.Fault String) := do
  match call arguments with
  | .error _ => return .ok ""
  | .ok call =>
    if (nonempty? call.request.text).isSome || (nonempty? call.request.file).isSome then
      return .ok ""
    else
      let bytes ← rest (← IO.getStdin) .empty
      return (Text.Utf8.decode bytes.toList).map String.ofList

/-- Writes what a run said, in order. -/
def say (output : List Output) : IO Unit := do
  for said in output do
    IO.print said.stdout
    IO.eprint said.stderr

end Reckoner.Executable

open Reckoner Reckoner.CommandLine Reckoner.Executable in
/-- Runs the program on the arguments of the process. -/
def main (arguments : List String) : IO UInt32 := do
  let bytes ← wantedBytes arguments
  match ← input arguments with
  | .error cause =>
    IO.eprintln cause.message
    return 1
  | .ok stdin =>
    let file ← defaults
    let sources : Settings.Sources := { environment := ← environment file, file }
    let outcome := run { sources, bytesOf := fun _ => bytes, stdin } arguments
    say outcome.output
    match outcome.ending with
    | .exit code => return code.toUInt32
    | .breakdown cause =>
      IO.eprintln cause.message
      return 1
