import ProbeTrace.Bytes

/-!
# File trees

Where a path leads. Its names are followed one after the other from the root or from
the place of work; only directories lead on. A path that leads nowhere is refused
for the first fault on the way, and a directory holds nothing that could be read.
-/

set_option autoImplicit false

namespace ProbeTrace

/-- Why a file cannot be read or started. -/
inductive FileFault where
  | missing
  | denied
  /-- The path goes on behind a file. -/
  | notDirectory
  | isDirectory
  | nameTooLong
  /-- The path holds a character that ends paths. -/
  | brokenName
  | notText
  | other (reason : String)
  deriving DecidableEq, Repr

/-- The reason in words, with the number of the system where it has one. -/
def FileFault.message : FileFault → String
  | .missing => "No such file or directory (os error 2)"
  | .denied => "Permission denied (os error 13)"
  | .notDirectory => "Not a directory (os error 20)"
  | .isDirectory => "Is a directory (os error 21)"
  | .nameTooLong => "File name too long (os error 36)"
  | .brokenName => "file name contained an unexpected NUL byte"
  | .notText => "stream did not contain valid UTF-8"
  | .other reason => reason

/-- The names from the root to a place, the last one first. -/
abbrev FileTree.Way := List String

structure FileTree where
  directories : List FileTree.Way
  files : List (FileTree.Way × Bytes)
  /-- The directory where paths begin that do not begin at the root. -/
  workplace : FileTree.Way
  deriving Repr

namespace FileTree

/-- Bytes of the longest name. -/
def maxName : Nat := 255

/-- Bytes of the shortest path that is too long. -/
def pathLimit : Nat := 4096

def isDirectory (tree : FileTree) (way : Way) : Bool :=
  way.isEmpty || tree.directories.contains way

def file? (tree : FileTree) (way : Way) : Option Bytes :=
  (tree.files.find? fun file => file.1 = way).map Prod.snd

/-- Follows names from a directory; an empty name stays where it is. -/
def follow (tree : FileTree) : Way → List String → Except FileFault Way
  | here, [] => .ok here
  | here, name :: rest =>
    if name = "" ∨ name = "." then follow tree here rest
    else if name = ".." then follow tree here.tail rest
    else if maxName < name.utf8ByteSize then .error .nameTooLong
    else if tree.isDirectory (name :: here) then follow tree (name :: here) rest
    else if (tree.file? (name :: here)).isNone then .error .missing
    else if rest.isEmpty then .ok (name :: here)
    else .error .notDirectory

/-- The place a path leads to. -/
def locate (tree : FileTree) (path : String) : Except FileFault Way :=
  if path.isEmpty then .error .missing
  else if pathLimit ≤ path.utf8ByteSize then .error .nameTooLong
  else follow tree (if path.startsWith "/" then [] else tree.workplace) (path.splitOn "/")

def read (tree : FileTree) (path : String) : Except FileFault Bytes := do
  match tree.file? (← tree.locate path) with
  | some data => .ok data
  | none => .error .isDirectory

/-- Why a command cannot be started if no file of the tree is a program. A command
without a slash is looked for among installed programs, where it is not to be found;
the two names that every directory has may not be started. -/
def refusal (tree : FileTree) (command : String) : FileFault :=
  if command.toList.contains '/' then
    match tree.locate command with
    | .error fault => fault
    | .ok _ => .denied
  else if maxName < command.utf8ByteSize then .nameTooLong
  else if command = "." ∨ command = ".." then .denied
  else .missing

end FileTree
end ProbeTrace
