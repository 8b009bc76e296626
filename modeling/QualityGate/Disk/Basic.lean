import QualityGate.Text.Lines
import QualityGate.Text.Utf8
import QualityGate.Time.Instant

/-!
# Disks

A disk is a tree of directories, files and links.  It is kept as a list of nodes, each with its
*location*: the list of the names that lead to it from the top.  Whatever is done to a disk yields
another disk, so an operation that fails changes nothing.

A path is a text.  What it leads to depends on the disk, because of links; two facts are
load-bearing.

* A path is followed name by name, and only a directory or a link to one can be followed further.
  So an error in the middle of a path wins over one at its end.
* A slash at the end stands for the directory itself, and so demands one.
-/

namespace QualityGate

open QualityGate.Text (Bytes)

/-- Why an operation on a disk fails. -/
inductive FileError where
  | notFound
  | permissionDenied
  | alreadyExists
  | notDirectory
  | isDirectory
  | nameTooLong
  | notEmpty
  | tooManyLinks
  /-- The content is no UTF-8. -/
  | notText
  /-- The path has the character zero in it. -/
  | zeroInPath
  deriving DecidableEq, Repr

namespace FileError

/-- The error in words. -/
def text : FileError → String
  | notFound => "No such file or directory"
  | permissionDenied => "Permission denied"
  | alreadyExists => "File exists"
  | notDirectory => "Not a directory"
  | isDirectory => "Is a directory"
  | nameTooLong => "File name too long"
  | notEmpty => "Directory not empty"
  | tooManyLinks => "Too many levels of symbolic links"
  | notText => "stream did not contain valid UTF-8"
  | zeroInPath => "file name contained an unexpected NUL byte"

/-- The number that the operating system has for the error. -/
def code? : FileError → Option Nat
  | notFound => some 2
  | permissionDenied => some 13
  | alreadyExists => some 17
  | notDirectory => some 20
  | isDirectory => some 21
  | nameTooLong => some 36
  | notEmpty => some 39
  | tooManyLinks => some 40
  | notText | zeroInPath => none

/-- The error in words, with its number if it has one. -/
def message (error : FileError) : String :=
  match error.code? with
  | some code => s!"{error.text} (os error {code})"
  | none => error.text

end FileError

/-- The names that lead from the top of a disk to a node. -/
abbrev Location := List String

/-- What a name in a directory stands for. -/
inductive Node where
  | directory
  | file (content : Bytes) (modified : Time.Instant)
  /-- A link to a path, which is followed from the directory of the link. -/
  | link (target : String)
  deriving DecidableEq, Repr

/-- A tree of directories, files and links. -/
structure Disk where
  nodes : List (Location × Node) := []
  deriving Repr

/-- The names of a path; a slash at the end adds a `.`. -/
def pathNames (path : String) : List String :=
  let pieces := (Text.splitOn '/' path.toList).map String.ofList
  pieces.filter (! ·.isEmpty) ++ (if pieces.getLast? == some "" then ["."] else [])

namespace Disk

/-- The node at a location; the top is a directory. -/
def get? (disk : Disk) : Location → Option Node
  | [] => some .directory
  | location => disk.nodes.lookup location

/-- The disk with a node at a location. -/
def put (disk : Disk) (location : Location) (node : Node) : Disk :=
  ⟨(location, node) :: disk.nodes.filter (·.1 != location)⟩

/-- The disk without the node at a location. -/
def delete (disk : Disk) (location : Location) : Disk :=
  ⟨disk.nodes.filter (·.1 != location)⟩

/-- The disk without the node at a location and whatever is below it. -/
def deleteTree (disk : Disk) (location : Location) : Disk :=
  ⟨disk.nodes.filter fun (place, _) => ! location.isPrefixOf place⟩

/-- The largest number of bytes of a name. -/
def nameLimit : Nat := 255

/-- The largest number of bytes of a path. -/
def pathLimit : Nat := 4095

/-- The largest number of links on a path. -/
def linkLimit : Nat := 40

/-- Follow names from a directory.  The answer is where they lead and what is there; only the last
name may lead to nothing.  A link at the end is followed when `toEnd` says so. -/
def follow (disk : Disk) (toEnd : Bool) (links : Nat) (here : Location) :
    List String → Except FileError (Location × Option Node)
  | [] => .ok (here, disk.get? here)
  | "." :: rest => follow disk toEnd links here rest
  | ".." :: rest => follow disk toEnd links here.dropLast rest
  | name :: rest =>
    if nameLimit < name.utf8ByteSize then .error .nameTooLong
    else
      let there := here ++ [name]
      match disk.get? there with
      | none => if rest.isEmpty then .ok (there, none) else .error .notFound
      | some .directory => follow disk toEnd links there rest
      | some (.file content modified) =>
        if rest.isEmpty then .ok (there, some (.file content modified)) else .error .notDirectory
      | some (.link target) =>
        if rest.isEmpty && ! toEnd then .ok (there, some (.link target))
        else match links with
          | 0 => .error .tooManyLinks
          | links + 1 =>
            let start := if target.startsWith "/" then [] else here
            follow disk toEnd links start (pathNames target ++ rest)
termination_by names => (links, names.length)

/-- Follow a path from the top. -/
def resolve (disk : Disk) (toEnd : Bool) (path : String) :
    Except FileError (Location × Option Node) :=
  if path.contains '\x00' then .error .zeroInPath
  else if pathLimit < path.utf8ByteSize then .error .nameTooLong
  else disk.follow toEnd linkLimit [] (pathNames path)

end Disk

end QualityGate
