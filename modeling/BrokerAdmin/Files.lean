import BrokerAdmin.Error
import BrokerAdmin.Text

/-!
# Files

Settings, certificates and archives are read from files. A path is a text of names with slashes
between them; `.` means this directory and `..` the one above.

Reading is a function from paths to contents, so what a call does with files can be said without a
disk. `FileTree` is such a function given by a list: the files below a working directory. Its
directories are those that its files lie in.

## Main definitions

* `Files`: what reading each path gives.
* `FilePath.fileName`: the name at the end of a path.
* `FileTree`, `FileTree.read`: files below a working directory.
-/

namespace BrokerAdmin

/-- What reading each path gives. -/
abbrev Files := String → Except FileError Bytes

namespace FilePath

/-- The names on a path; empty ones mean nothing. -/
def names (path : String) : List String :=
  ((splitFields '/' path.toList).map String.ofList).filter (· != "")

/-- The name at the end of a path. A path that ends above a directory has none. -/
def fileName (path : String) : Option String :=
  match ((names path).filter (· != ".")).getLast? with
  | some name => if name = ".." then none else some name
  | none => none

end FilePath

/-- Files below a working directory, by their paths. -/
structure FileTree where
  /-- The names on the path to each file, and its content. -/
  files : List (List String × Bytes)
  deriving DecidableEq

namespace FileTree

/-- The tree of files with these paths. -/
def ofList (files : List (String × Bytes)) : FileTree :=
  ⟨files.map fun (path, content) => (FilePath.names path, content)⟩

/-- The content of the file at a place. -/
def content? (tree : FileTree) (place : List String) : Option Bytes :=
  (tree.files.find? (·.1 = place)).map (·.2)

/-- Whether there is something at a place. -/
def exists? (tree : FileTree) (place : List String) : Bool :=
  tree.files.any fun (path, _) => place.isPrefixOf path

/-- The greatest length of a name on a path, in bytes. -/
def maxName : Nat := 255

/-- The greatest length of a path, in bytes. -/
def maxPath : Nat := 4095

/-- The directories at the root of every system. -/
def rootDirectories : List String :=
  ["bin", "dev", "etc", "home", "lib", "opt", "proc", "root", "run", "sbin", "sys", "tmp", "usr", "var"]

/-- Read what steps from the root lead to. Of what is there only what every system has is known: the
root, the directories in it, and the device that is always empty. -/
def readFromRoot (place : List String) : List String → Except FileError Bytes
  | [] => if place = ["dev", "null"] then .ok [] else .error .isDirectory
  | step :: steps =>
    if place = ["dev", "null"] then .error .notDirectory
    else if step = "" || step = "." then readFromRoot place steps
    else if step = ".." then readFromRoot place.dropLast steps
    else if maxName < step.utf8ByteSize then .error .tooLong
    else if (place.isEmpty && rootDirectories.contains step) || place ++ [step] = ["dev", "null"] then
      readFromRoot (place ++ [step]) steps
    else .error .notFound

/-- Read what steps from the directory above the tree lead to. Nothing but directories further up is
known there. -/
def readFromAbove (steps : List String) : Except FileError Bytes :=
  if steps.all fun step => step = "" || step = "." || step = ".." then .error .isDirectory
  else .error .notFound

/-- Read what steps from a place lead to. A file allows no further step, not even an empty one. -/
def readFrom (tree : FileTree) (place : List String) : List String → Except FileError Bytes
  | [] =>
    match tree.content? place with
    | some content => .ok content
    | none => .error .isDirectory
  | step :: steps =>
    if (tree.content? place).isSome then .error .notDirectory
    else if step = "" || step = "." then tree.readFrom place steps
    else if step = ".." then
      if place.isEmpty then readFromAbove steps else tree.readFrom place.dropLast steps
    else if maxName < step.utf8ByteSize then .error .tooLong
    else if tree.exists? (place ++ [step]) then tree.readFrom (place ++ [step]) steps
    else .error .notFound

/-- Read the file that a path leads to. -/
def read (tree : FileTree) : Files := fun path =>
  if path.toList.contains (Char.ofNat 0) then .error .invalidPath
  else if path.isEmpty then .error .notFound
  else if maxPath < path.utf8ByteSize then .error .tooLong
  else
    let steps := (splitFields '/' path.toList).map String.ofList
    if path.toList.head? = some '/' then readFromRoot [] steps else tree.readFrom [] steps

end FileTree

end BrokerAdmin
