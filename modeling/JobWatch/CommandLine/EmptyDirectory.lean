import JobWatch.Text.Split
import JobWatch.Text.Utf8

/-! Where a path leads to in a working directory that holds nothing. -/

namespace JobWatch.CommandLine

/-- Where a new file would be: in the directory itself, elsewhere, or nowhere. -/
inductive Place where
  | inside (name : String)
  | outside
  | refused (reason : String)
  deriving DecidableEq, Repr

namespace Place

/-- The part of a path stays where it is, or leads one directory up. -/
def isStep (part : List Char) : Bool :=
  part.isEmpty || part == ['.'] || part == ['.', '.']

/-- Directories at the root of every system. -/
def systemDirectories : List (List Char) :=
  ["dev", "etc", "tmp", "usr", "var"].map String.toList

/-- The part of a path names a directory that is there. -/
def isDirectory (atRoot : Bool) (part : List Char) : Bool :=
  isStep part || atRoot && systemDirectories.contains part

/-- Devices of every system, and why they take nothing, if they do not. -/
def devices : List (String × Option String) :=
  [("/dev/null", none), ("/dev/full", some "No space left on device (os error 28)")]

/-- The longest name of a file, in octets. -/
def maxNameSize : Nat :=
  255

/-- The longest path, in octets. -/
def maxPathSize : Nat :=
  4095

/-- A name or a path is too long. -/
def tooLong : Place :=
  .refused "File name too long (os error 36)"

/-- Where the parts of a path lead to. Every part but the last has to be a directory, and the last
must not be one, which a slash behind it would make it.
-/
def follow (slash leaves atRoot : Bool) : List (List Char) → Place
  | [] => .refused "Is a directory (os error 21)"
  | [name] =>
    if slash || isDirectory atRoot name then .refused "Is a directory (os error 21)"
    else if maxNameSize < (Text.Utf8.encode name).length then tooLong
    else if leaves then .outside
    else .inside (String.ofList name)
  | part :: parts =>
    if isDirectory atRoot part then
      follow slash (leaves || part == ['.', '.']) (atRoot && isStep part) parts
    else if maxNameSize < (Text.Utf8.encode part).length then tooLong
    else .refused "No such file or directory (os error 2)"

/-- Where a path leads to. -/
def ofPath (path : String) : Place :=
  let text := path.toList
  let atRoot := text.head? == some '/'
  match devices.lookup path with
  | some none => .outside
  | some (some reason) => .refused reason
  | none =>
    if maxPathSize < (Text.Utf8.encode text).length then tooLong
    else
      follow (text.getLast? == some '/') atRoot atRoot
        (Text.dropTrailing List.isEmpty (Text.split (· == '/') text))

/-- Why no file can be written at a path. -/
def fault? (path : String) : Option String :=
  match ofPath path with
  | .refused reason => some reason
  | .inside _ | .outside => none

end Place

end JobWatch.CommandLine
