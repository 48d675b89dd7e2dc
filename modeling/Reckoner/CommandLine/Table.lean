import Reckoner.Expr.Walk
import Reckoner.Program

/-!
# Tables

Two tables are printed, both with a title centred above them and drawn with plain characters. The
table of a tree has three rows of a key and a value, and a long value is wrapped at spaces; the
table of a program has a heading and one numbered row for each instruction.
-/

namespace Reckoner.CommandLine

/-- A text filled up with spaces on its right. -/
def padRight (width : Nat) (s : String) : String :=
  s ++ String.ofList (List.replicate (width - s.length) ' ')

/-- A text filled up with spaces on its left. -/
def padLeft (width : Nat) (s : String) : String :=
  String.ofList (List.replicate (width - s.length) ' ') ++ s

/-- A text between spaces. If they cannot be divided evenly there is one more on its right. -/
def centred (width : Nat) (s : String) : String :=
  padRight width (padLeft (s.length + (width - s.length) / 2) s)

/-- A line of the given width between two corners. -/
def rule (width : Nat) : String :=
  "+" ++ String.ofList (List.replicate (width - 2) '-') ++ "+"

/-! ## The table of a tree -/

/-- The greatest width of a value. -/
def maxValueWidth : Nat := 69

/-- A line that is cut off with a mark if it is too wide. -/
def clipped (width : Nat) (s : String) : String :=
  if width < s.length then String.ofList (s.toList.take (width - 1)) ++ "…" else s

/-- Puts words into lines. A word goes on the current line if it fits behind what is there and one
space; `used` counts the characters on the current line with a space behind every word, and
`current` holds its words, newest first. -/
def wrapFrom (width used : Nat) (current : List String) : List String → List String
  | [] => [" ".intercalate current.reverse]
  | word :: rest =>
    if current.isEmpty ∨ used + word.length ≤ width then
      wrapFrom width (used + word.length + 1) (word :: current) rest
    else " ".intercalate current.reverse :: wrapFrom width (word.length + 1) [word] rest

/-- The lines of a value that is too wide. -/
def wrapped (width : Nat) (s : String) : List String :=
  (wrapFrom width 0 [] (s.splitOn " ")).map (clipped width)

/-- A row of a key and a value. -/
def keyRow (width : Nat) (key value : String) : String :=
  "|" ++ padRight 7 key ++ "| " ++ padRight width value ++ "|"

/-- The rows of a value of one or more lines. The key stands on the first of them. -/
def keyRows (width : Nat) (key : String) : List String → List String
  | [] => []
  | first :: rest => keyRow width key first :: rest.map (keyRow width "")

/-- The table of a tree (`_print_kv_table`). -/
def treeTable (e : Expr) : List String :=
  let rendering := e.rendered
  let tag := e.root.tag
  let height := Text.decimal e.measuredHeight
  let wide := maxValueWidth < rendering.length
  let width :=
    if wide then maxValueWidth else max rendering.length (max tag.length height.length)
  let lines := if wide then wrapped width rendering else [rendering]
  let total := width + 11
  [centred total "AST", rule total] ++ keyRows width "infix" lines
    ++ [keyRow width "root" tag, keyRow width "height" height, rule total]

/-! ## The table of a program -/

/-- The heading above the instructions. -/
def instructionHeading : String := "Instruction"

/-- A row of a number and an instruction. -/
def numberedRow (indexWidth width : Nat) (index line : String) : String :=
  "| " ++ padLeft indexWidth index ++ " | " ++ padRight width line ++ " |"

/-- The table of a program (`_print_program_table`). -/
def programTable (p : Program) : List String :=
  let listing := p.listing
  let indexWidth := (Text.decimal (listing.length - 1 : Nat)).length
  let width := (listing.map String.length).foldl max instructionHeading.length
  let total := indexWidth + width + 7
  let dashes (n : Nat) : String := String.ofList (List.replicate n '-')
  [ centred total ("Program [" ++ Text.decimal listing.length ++ "]"),
    rule total,
    numberedRow indexWidth width "#" instructionHeading,
    "|" ++ dashes (indexWidth + 2) ++ "+" ++ dashes (width + 2) ++ "|" ]
    ++ (listing.zipIdx.map fun (line, index) =>
      numberedRow indexWidth width (Text.decimal index) line)
    ++ [rule total]

end Reckoner.CommandLine
