import Reckoner.Text.Spelling

/-!
# Files by name

A file is named by a path, which is tidied before it is used: empty parts and parts that are a
single dot are dropped. What a path leads to is asked of a `FileTree`, or of anything else that
answers with the file's bytes or a `FileFault`.
-/

namespace Reckoner

/-- Why a file cannot be read. -/
inductive FileFault where
  | notFound
  | notDirectory
  | isDirectory
  | nameTooLong
  /-- Any other reason the system gives, by number and name. -/
  | other (number : Nat) (reason : String)
  deriving DecidableEq, Repr

namespace FileFault

/-- The number that the system gives a fault. -/
def number : FileFault → Nat
  | notFound => 2
  | notDirectory => 20
  | isDirectory => 21
  | nameTooLong => 36
  | other number _ => number

/-- The name that the system gives a fault. -/
def reason : FileFault → String
  | notFound => "No such file or directory"
  | notDirectory => "Not a directory"
  | isDirectory => "Is a directory"
  | nameTooLong => "File name too long"
  | other _ reason => reason

/-- The wording of a fault that a path met with. -/
def message (fault : FileFault) (path : String) : String :=
  "[Errno " ++ Text.decimal fault.number ++ "] " ++ fault.reason ++ ": " ++ Text.quoted path

end FileFault

/-- The parts of a path that matter. -/
def pathParts (path : String) : List String :=
  (path.splitOn "/").filter fun part => part ≠ "" && part ≠ "."

/-- What stands in front of the parts: nothing, or the root. Two slashes are a root of their own,
and three or more are one. -/
def pathRoot (path : String) : String :=
  match path.toList.takeWhile (· = '/') with
  | [] => ""
  | [_, _] => "//"
  | _ => "/"

/-- A path without the parts that do not matter. -/
def tidyPath (path : String) : String :=
  let tidy := pathRoot path ++ "/".intercalate (pathParts path)
  if tidy.isEmpty then "." else tidy

/-- What has a name in a directory. -/
inductive FileEntry where
  | file (bytes : List UInt8)
  | directory
  deriving DecidableEq, Repr

/-- A directory and what is in it, each entry under its tidy path. -/
structure FileTree where
  entries : List (String × FileEntry)

namespace FileTree

/-- The greatest number of bytes in a name. -/
def maxNameBytes : Nat := 255

/-- The greatest number of bytes in a path. -/
def maxPathBytes : Nat := 4095

/-- What has a path in the directory. Whatever has something in it is a directory. -/
def entry? (tree : FileTree) (path : String) : Option FileEntry :=
  (tree.entries.lookup path).orElse fun _ =>
    if tree.entries.any fun (other, _) => (path ++ "/").toList.isPrefixOf other.toList then
      some .directory
    else none

/-- Follows the parts of a path, from a place inside the directory, given by the parts that lead to
it, innermost first. Outside of the directory nothing is known but that it lies in others. -/
def follow (tree : FileTree) (place : List String) :
    List String → Except FileFault (List UInt8)
  | [] => .error .isDirectory
  | part :: rest =>
    if part = ".." then
      match place with
      | _ :: outer => tree.follow outer rest
      | [] => .error (if rest.all (· = "..") then .isDirectory else .notFound)
    else if maxNameBytes < part.utf8ByteSize then .error .nameTooLong
    else
      match tree.entry? ("/".intercalate (part :: place).reverse) with
      | none => .error .notFound
      | some .directory => tree.follow (part :: place) rest
      | some (.file bytes) => if rest.isEmpty then .ok bytes else .error .notDirectory

/-- The bytes of the file that a path leads to. A path that starts at the root leads to nothing but
the root itself. -/
def read (tree : FileTree) (path : String) : Except FileFault (List UInt8) :=
  if maxPathBytes < path.utf8ByteSize then .error .nameTooLong
  else if pathRoot path = "" then tree.follow [] (pathParts path)
  else .error (if (pathParts path).isEmpty then .isDirectory else .notFound)

end FileTree

end Reckoner
