import Reckoner.CommandLine.Arguments

/-!
# Help

The texts that explain the program and each of its commands, laid out for eighty columns.
-/

namespace Reckoner.CommandLine

/-- The name under which a scope is spoken of. -/
def Scope.title : Scope → String
  | none => "rcalc"
  | some command => "rcalc " ++ command.name

/-- The lines that show how a scope is called. -/
def Scope.usage : Scope → List String
  | none => ["usage: rcalc [-h] \x7beval,parse,compile\x7d ..."]
  | some .eval =>
    [ "usage: rcalc eval [-h] [--text TEXT] [--file FILE]",
      "                  [--executor \x7binterpreter,vm\x7d] [--compare]" ]
  | some .parse => ["usage: rcalc parse [-h] [--text TEXT]"]
  | some .compile => ["usage: rcalc compile [-h] [--text TEXT]"]

/-- The line that explains the option for help. -/
def helpLine : String := "  -h, --help            show this help message and exit"

/-- The line that explains the option for a text. -/
def textLine : String := "  --text TEXT, -t TEXT  Wyrażenie (lub stdin)"

/-- The lines that explain a scope, below those that show how it is called. -/
def Scope.details : Scope → List String
  | none =>
    [ "rcalc — kalkulator wyrażeń całkowitych (+ - * /)",
      "",
      "positional arguments:",
      "  \x7beval,parse,compile\x7d",
      "    eval                Oblicz wyrażenia, po jednym na linię",
      "    parse               Pokaż AST wyrażenia",
      "    compile             Pokaż program maszyny stosowej",
      "",
      "options:",
      helpLine ]
  | some .eval =>
    [ "options:",
      helpLine,
      textLine,
      "  --file FILE, -f FILE  Plik z wyrażeniami, po jednym na linię",
      "  --executor \x7binterpreter,vm\x7d, -e \x7binterpreter,vm\x7d",
      "                        Domyślnie RCALC_DEFAULT_EXECUTOR",
      "  --compare             Uruchom oba executory i sprawdź zgodność wyników" ]
  | some .parse => ["options:", helpLine, textLine]
  | some .compile => ["options:", helpLine, textLine]

/-- The full help on a scope. -/
def Scope.help (scope : Scope) : List String := Scope.usage scope ++ [""] ++ Scope.details scope

/-- The lines that a complaint is reported with. -/
def Complaint.report (scope : Scope) (cause : Complaint) : List String :=
  Scope.usage scope ++ [Scope.title scope ++ ": error: " ++ cause.message]

end Reckoner.CommandLine
