import XmlExtract.Input.Delivery

/-!
# File systems

What stands behind the paths of a machine.  A path is followed name by name from the
root or from the working directory; every name but the last must lead to a
directory, and so must the last one if a slash follows it.
-/

namespace XmlExtract

/-- What can be opened. -/
inductive Opened where
  /-- A directory opens, but nothing can be read from it. -/
  | directory
  | file (deliveries : List Delivery)
  deriving Repr, DecidableEq

/-- The files that can be opened: what stands behind the bytes of a path, or the
reason why it cannot be opened. -/
abbrev FileSystem := List UInt8 → Except String Opened

namespace FileSystem

/-! ### Reasons -/

/-- The reason for a path that names nothing. -/
def noSuchFile : String := "No such file or directory (os error 2)"

/-- The reason for a path that goes through something other than a directory. -/
def notDirectory : String := "Not a directory (os error 20)"

/-- The reason for a path, or a name in it, that is too long. -/
def nameTooLong : String := "File name too long (os error 36)"

/-- The reason for a path that no system call can take. -/
def zeroInPath : String := "file name contained an unexpected NUL byte"

/-- The text of the failure that comes from reading a directory. -/
def isDirectory : String := "Is a directory (os error 21)"

/-! ### Following a path -/

/-- The bytes of a name. -/
abbrev Name := List UInt8

/-- The greatest length of a name, in bytes. -/
def nameLimit : Nat := 255

/-- The length of a path that is too long, in bytes. -/
def pathLimit : Nat := 4096

/-- The directories and the empty files of a machine, by the names that lead to them
from the root. -/
structure Tree where
  directories : List (List Name)
  emptyFiles : List (List Name)
  workingDirectory : List Name

/-- Follow one name from a place. -/
def Tree.follow (tree : Tree) (place : List Name) (name : Name) :
    Except String (List Name) :=
  if !tree.directories.contains place then .error notDirectory
  else if name = [] || name = ".".toUTF8.toList then .ok place
  else if name = "..".toUTF8.toList then .ok place.dropLast
  else if nameLimit < name.length then .error nameTooLong
  else
    let inner := place ++ [name]
    if tree.directories.contains inner || tree.emptyFiles.contains inner then .ok inner
    else .error noSuchFile

/-- Open what a path leads to. -/
def Tree.openPath (tree : Tree) : FileSystem := fun path =>
  if path.contains 0 then .error zeroInPath
  else if pathLimit ≤ path.length then .error nameTooLong
  else if path.isEmpty then .error noSuchFile
  else do
    let start := if path.head? = some 0x2F then [] else tree.workingDirectory
    let place ← (path.splitOn 0x2F).foldlM tree.follow start
    .ok (if tree.directories.contains place then .directory else .file [])

/-- The names of a path. -/
def names (path : List String) : List Name := path.map fun name => name.toUTF8.toList

/-- A machine without documents: the usual directories, and a device that is always
empty. -/
def bareTree : Tree where
  directories :=
    [[], ["bin"], ["boot"], ["dev"], ["dev", "pts"], ["dev", "shm"], ["etc"], ["home"],
      ["home", "reader"], ["lib"], ["media"], ["mnt"], ["opt"], ["proc"], ["root"],
      ["run"], ["sbin"], ["srv"], ["sys"], ["tmp"], ["usr"], ["var"]].map names
  emptyFiles := [["dev", "null"]].map names
  workingDirectory := names ["home", "reader"]

/-- The file system of a machine without documents. -/
def bare : FileSystem := bareTree.openPath

end FileSystem

end XmlExtract
