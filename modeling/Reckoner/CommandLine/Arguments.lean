import Reckoner.Executor
import Reckoner.Text.CharacterClass

/-!
# Command-line arguments

A call names a command, and options before or after it. Reading the arguments goes in two passes.
First every argument is given a shape by its spelling alone: an option, perhaps with a value
attached; something that looks like an option and is none; a word; or the divider `--`, behind which
everything is a word. Then options take their values from the words that follow them.

An option may be spelled out, shortened to any beginning that fits no other option, or given by its
letter; a value is attached behind an equals sign, or behind the letter directly. A minus sign in
front of a number does not make an option, and neither does one in a text with a space in it.

Options before the command are looked at with the program's own options in mind, and everything
behind it with the command's. What nobody has use for is left over, and reported at the very end.
-/

namespace Reckoner.CommandLine

/-! ## Options and commands -/

/-- An option. -/
inductive Flag where
  | help
  | text
  | file
  | executor
  | compare
  deriving DecidableEq, Repr

/-- What the program can be asked to do. -/
inductive Command where
  | eval
  | parse
  | compile
  deriving DecidableEq, Repr

namespace Flag

/-- The spellings of an option, in the order in which messages show them. -/
def spellings : Flag → List String
  | help => ["-h", "--help"]
  | text => ["--text", "-t"]
  | file => ["--file", "-f"]
  | executor => ["--executor", "-e"]
  | compare => ["--compare"]

/-- Whether an option takes a value. -/
def takesValue : Flag → Bool
  | help => false
  | text => true
  | file => true
  | executor => true
  | compare => false

end Flag

namespace Command

/-- Every command, in the order in which messages list them. -/
def all : List Command := [.eval, .parse, .compile]

/-- The name of a command. -/
def name : Command → String
  | eval => "eval"
  | parse => "parse"
  | compile => "compile"

/-- The command of a name. -/
def ofName? (name : String) : Option Command := all.find? fun command => command.name == name

/-- The options of a command. -/
def flags : Command → List Flag
  | eval => [.help, .text, .file, .executor, .compare]
  | parse => [.help, .text]
  | compile => [.help, .text]

end Command

/-- Who is being spoken to: the program, or one of its commands. -/
abbrev Scope := Option Command

/-- The options of a scope. -/
def Scope.flags : Scope → List Flag
  | none => [.help]
  | some command => command.flags

/-- What the options of a call ask for. -/
structure Request where
  text : Option String := none
  file : Option String := none
  executor : Option ExecutorKind := none
  compare : Bool := false
  deriving DecidableEq, Repr

/-! ## Complaints -/

/-- What is wrong with the arguments. -/
inductive Complaint where
  /-- A beginning that several options have. -/
  | ambiguous (argument : String) (candidates : List String)
  /-- An option without the value it takes. -/
  | valueNeeded (flag : Flag)
  /-- A value attached to an option that takes none. -/
  | valueIgnored (flag : Flag) (value : String)
  /-- An executor that does not exist. -/
  | badExecutor (name : String)
  /-- No command. -/
  | commandNeeded
  /-- A command that does not exist. -/
  | badCommand (name : String)
  /-- Arguments that nobody has use for. -/
  | leftOver (arguments : List String)
  deriving DecidableEq, Repr

/-- An option as messages call it. -/
def Flag.title (flag : Flag) : String := "/".intercalate flag.spellings

/-- The complaint about a choice that does not exist. -/
def invalidChoice (name : String) (choices : List String) : String :=
  "invalid choice: " ++ Text.quoted name ++ " (choose from "
    ++ ", ".intercalate (choices.map Text.quoted) ++ ")"

/-- The wording of a complaint. -/
def Complaint.message : Complaint → String
  | ambiguous argument candidates =>
    "ambiguous option: " ++ argument ++ " could match " ++ ", ".intercalate candidates
  | valueNeeded flag => "argument " ++ flag.title ++ ": expected one argument"
  | valueIgnored flag value =>
    "argument " ++ flag.title ++ ": ignored explicit argument " ++ Text.quoted value
  | badExecutor name =>
    "argument " ++ Flag.executor.title ++ ": "
      ++ invalidChoice name (ExecutorKind.all.map ExecutorKind.name)
  | commandNeeded => "the following arguments are required: command"
  | badCommand name => "argument command: " ++ invalidChoice name (Command.all.map Command.name)
  | leftOver arguments => "unrecognized arguments: " ++ " ".intercalate arguments

/-- Why nothing is run. -/
inductive Stop where
  /-- Help was asked for. -/
  | help (scope : Scope)
  /-- The arguments are not in order. -/
  | complaint (scope : Scope) (cause : Complaint)
  deriving DecidableEq, Repr

/-! ## The shape of an argument -/

/-- What an argument looks like. -/
inductive Shape where
  | word
  | divider
  /-- An option, whether it was given by its letter, and what is attached to it. -/
  | option (flag : Flag) (short : Bool) (attached : Option (List Char))
  | unknownOption
  deriving DecidableEq, Repr

/-- The options of a list with their spellings, one by one. -/
def spelled (flags : List Flag) : List (List Char × Flag) :=
  flags.flatMap fun flag => flag.spellings.map fun s => (s.toList, flag)

/-- Whether a spelling is a letter behind a single minus sign. -/
def isShort : List Char → Bool
  | '-' :: c :: _ => c ≠ '-'
  | _ => false

/-- A text without the line feed it may end in. -/
def withoutFinalLineFeed (s : List Char) : List Char :=
  if s.getLast? = some '\n' then s.dropLast else s

/-- Whether an argument is a number behind a minus sign: digits, perhaps with a point before the
last of them. -/
def isNegativeNumber (s : List Char) : Bool :=
  match withoutFinalLineFeed s with
  | '-' :: rest =>
    match rest.span Text.isDecimalDigit with
    | (digits, []) => !digits.isEmpty
    | (_, '.' :: places) => !places.isEmpty && places.all Text.isDecimalDigit
    | _ => false
  | _ => false

/-- The shape of an option that is spelled out or given by its letter, without or with an equals
sign. -/
def exactShape? (flags : List Flag) (s : List Char) : Option Shape :=
  let whole := (spelled flags).lookup s |>.map fun flag => Shape.option flag (isShort s) none
  whole.orElse fun _ =>
    match s.span (· ≠ '=') with
    | (name, _ :: value) =>
      (spelled flags).lookup name |>.map fun flag =>
        Shape.option flag (isShort name) (some value)
    | _ => none

/-- The options that the beginning of an argument may stand for, with their full spellings and the
shape the argument then has. -/
def candidates (flags : List Flag) (s : List Char) : List (List Char × Shape) :=
  match s with
  | '-' :: '-' :: _ =>
    let (name, attached) :=
      match s.span (· ≠ '=') with
      | (name, _ :: value) => (name, some value)
      | (name, []) => (name, none)
    ((spelled flags).filter fun (spelling, _) => name.isPrefixOf spelling).map
      fun (spelling, flag) => (spelling, .option flag false attached)
  | '-' :: letter :: value =>
    ((spelled flags).filter fun (spelling, _) => spelling = ['-', letter]).map
      fun (spelling, flag) => (spelling, .option flag true (some value))
  | _ => []

/-- The shape of an argument that is not the divider. -/
def shapeOf (flags : List Flag) (argument : String) : Except Complaint Shape :=
  match argument.toList with
  | '-' :: second :: rest =>
    let s := '-' :: second :: rest
    match exactShape? flags s with
    | some shape => .ok shape
    | none =>
      match candidates flags s with
      | [(_, shape)] => .ok shape
      -- only what no option starts with may turn out to be a number or a text
      | [] => .ok (if isNegativeNumber s || s.contains ' ' then .word else .unknownOption)
      | several =>
        .error (.ambiguous argument (several.map fun (spelling, _) => String.ofList spelling))
  | _ => .ok .word

/-- Arguments with their shapes. -/
abbrev Shaped := List (String × Shape)

/-- The shapes of several arguments. -/
def shapesOf (flags : List Flag) : List String → Except Complaint Shaped
  | [] => .ok []
  | argument :: rest =>
    if argument = "--" then .ok ((argument, .divider) :: rest.map fun word => (word, .word))
    else
      match shapeOf flags argument with
      | .error cause => .error cause
      | .ok shape =>
        match shapesOf flags rest with
        | .error cause => .error cause
        | .ok shaped => .ok ((argument, shape) :: shaped)

/-! ## Options in one argument -/

/-- What an argument with an option in it comes to: options that are complete, and perhaps one that
still needs a value. -/
structure Bundle where
  complete : List (Flag × Option String) := []
  open? : Option Flag := none
  deriving DecidableEq, Repr

/-- Puts a complete option in front. -/
def Bundle.after (flag : Flag) (b : Bundle) : Bundle :=
  { b with complete := (flag, none) :: b.complete }

/-- What an option without anything attached comes to. -/
def bare (flag : Flag) : Bundle :=
  if flag.takesValue then { open? := some flag } else { complete := [(flag, none)] }

/-- The option of a letter. -/
def ofLetter? (flags : List Flag) (letter : Char) : Option Flag :=
  (spelled flags).lookup ['-', letter]

/-- What an option with something attached comes to. An option that takes no value and was given by
its letter may have the letters of further options behind it. -/
def unbundle (flags : List Flag) (flag : Flag) (short : Bool) :
    List Char → Except Complaint Bundle
  | [] =>
    if flag.takesValue then .ok { complete := [(flag, some "")] }
    else .error (.valueIgnored flag "")
  | letter :: rest =>
    let value := String.ofList (letter :: rest)
    if flag.takesValue then .ok { complete := [(flag, some value)] }
    else if !short then .error (.valueIgnored flag value)
    else
      match ofLetter? flags letter with
      | none => .error (.valueIgnored flag value)
      | some next =>
        if rest.isEmpty then .ok ((bare next).after flag)
        else (unbundle flags next true rest).map (·.after flag)

/-! ## Taking options -/

/-- A request with one more option. A later option replaces an earlier one. -/
def Request.take (scope : Scope) (r : Request) : Flag × Option String → Except Stop Request
  | (.help, _) => .error (.help scope)
  | (.text, value) => .ok { r with text := value }
  | (.file, value) => .ok { r with file := value }
  | (.compare, _) => .ok { r with compare := true }
  | (.executor, value) =>
    match ExecutorKind.ofName? (value.getD "") with
    | some kind => .ok { r with executor := some kind }
    | none => .error (.complaint scope (.badExecutor (value.getD "")))

/-- A request with several more options. -/
def Request.takeAll (scope : Scope) (r : Request) :
    List (Flag × Option String) → Except Stop Request
  | [] => .ok r
  | option :: rest =>
    match r.take scope option with
    | .error stop => .error stop
    | .ok r' => r'.takeAll scope rest

/-- What an option comes to, with or without something attached. -/
def bundleOf (flags : List Flag) (flag : Flag) (short : Bool) :
    Option (List Char) → Except Complaint Bundle
  | none => .ok (bare flag)
  | some attached => unbundle flags flag short attached

/-- Reads the arguments behind a command. The result holds what is left over. -/
def takeOptions (scope : Scope) (r : Request) : Shaped → Except Stop (Request × List String)
  | [] => .ok (r, [])
  | (_, .option flag short attached) :: rest =>
    match bundleOf (Scope.flags scope) flag short attached with
    | .error cause => .error (.complaint scope cause)
    | .ok bundle =>
      match bundle.open? with
      | none =>
        match r.takeAll scope bundle.complete with
        | .error stop => .error stop
        | .ok r' => takeOptions scope r' rest
      | some flag' =>
        match rest with
        | (value, .word) :: rest' =>
          match r.takeAll scope (bundle.complete ++ [(flag', some value)]) with
          | .error stop => .error stop
          | .ok r' => takeOptions scope r' rest'
        | _ => .error (.complaint scope (.valueNeeded flag'))
  | (argument, _) :: rest =>
    (takeOptions scope r rest).map fun (r', left) => (r', argument :: left)

/-! ## Calls -/

/-- A call: a command and what its options ask for. -/
structure Call where
  command : Command
  request : Request
  deriving DecidableEq, Repr

/-- Reads the arguments of a command. -/
def commandArguments (command : Command) (arguments : List String) :
    Except Stop (Request × List String) :=
  match shapesOf command.flags arguments with
  | .error cause => .error (.complaint (some command) cause)
  | .ok shaped => takeOptions (some command) {} shaped

/-- Reads the arguments of the program up to the command, and then those of the command. `left` is
what is left over so far. -/
def callFrom (left : List String) : Shaped → Except Stop Call
  | [] => .error (.complaint none .commandNeeded)
  | (name, .word) :: rest =>
    match Command.ofName? name with
    | none => .error (.complaint none (.badCommand name))
    | some command =>
      match commandArguments command (rest.map Prod.fst) with
      | .error stop => .error stop
      | .ok (request, more) =>
        match left ++ more with
        | [] => .ok ⟨command, request⟩
        | arguments => .error (.complaint none (.leftOver arguments))
  | [(_, .divider)] => .error (.complaint none .commandNeeded)
  -- the divider does not hide itself: with a word behind it, it is taken for the command
  | (argument, .divider) :: _ => .error (.complaint none (.badCommand argument))
  | (argument, .unknownOption) :: rest => callFrom (left ++ [argument]) rest
  | (_, .option flag short attached) :: rest =>
    match bundleOf (Scope.flags none) flag short attached with
    | .error cause => .error (.complaint none cause)
    | .ok bundle =>
      match Request.takeAll none {} bundle.complete with
      | .error stop => .error stop
      | .ok _ => callFrom left rest

/-- The call that arguments make: the part of `main` that reads them. -/
def call (arguments : List String) : Except Stop Call :=
  match shapesOf (Scope.flags none) arguments with
  | .error cause => .error (.complaint none cause)
  | .ok shaped => callFrom [] shaped

end Reckoner.CommandLine
