import QualityGate.Disk.Basic

/-!
# Operations on disks

Reading, writing and removing by path.  Writing goes through links, removing takes away the link
itself.  A file is always written as a whole.
-/

namespace QualityGate

open QualityGate.Text (Bytes)

/-- A path after another; a path that begins at the top stands alone, and so does one after no path
at all. -/
def joinPath (base path : String) : String :=
  if base.isEmpty || path.startsWith "/" then path
  else if base.endsWith "/" then base ++ path
  else base ++ "/" ++ path

/-- A path without the slashes and the `.` names at its end, written backwards. -/
def dropTrailing : List Char → List Char
  | ['/'] => ['/']
  | '/' :: rest => dropTrailing rest
  | '.' :: '/' :: rest => dropTrailing ('/' :: rest)
  | path => path

/-- The path of the directory that a path leads through last. -/
def parentPath? (path : String) : Option String :=
  match dropTrailing path.toList.reverse with
  | [] | ['/'] => none
  | name => some (String.ofList (dropTrailing (name.dropWhile (· ≠ '/'))).reverse)

namespace Disk

/-- What a path leads to. -/
def find (disk : Disk) (path : String) : Except FileError (Location × Node) := do
  match ← disk.resolve true path with
  | (location, some node) => return (location, node)
  | (_, none) => .error .notFound

/-- Whether a path leads to anything. -/
def pathExists (disk : Disk) (path : String) : Bool := (disk.find path).toOption.isSome

/-- Whether a path leads to a directory. -/
def isDirectory (disk : Disk) (path : String) : Bool :=
  (disk.find path).toOption.any (·.2 matches .directory)

/-- Whether a path leads to a file. -/
def isFile (disk : Disk) (path : String) : Bool :=
  (disk.find path).toOption.any (·.2 matches .file _ _)

/-- The content of a file. -/
def read (disk : Disk) (path : String) : Except FileError Bytes := do
  match ← disk.find path with
  | (_, .file content _) => return content
  | _ => .error .isDirectory

/-- The content of a file as text. -/
def readText (disk : Disk) (path : String) : Except FileError String := do
  match Text.stringOf? (← disk.read path) with
  | some text => return text
  | none => .error .notText

/-- Write a file, which becomes modified at this instant.  A slash at the end asks for a directory,
which is never written. -/
def write (disk : Disk) (now : Time.Instant) (path : String) (content : Bytes) :
    Except FileError Disk := do
  if path.endsWith "/" then
    match ← disk.find ((parentPath? path).getD "/") with
    | (_, .directory) => .error .isDirectory
    | _ => .error .notDirectory
  else
    match ← disk.resolve true path with
    | (_, some .directory) => .error .isDirectory
    | (location, _) => return disk.put location (.file content now)

/-- Make a directory. -/
def makeDirectory (disk : Disk) (path : String) : Except FileError Disk := do
  let path := String.ofList (dropTrailing path.toList.reverse).reverse
  match ← disk.resolve false path with
  | (_, some _) => .error .alreadyExists
  | (location, none) => return disk.put location .directory

/-- Make a directory, unless there is one already. -/
def ensureDirectory (disk : Disk) (path : String) : Except FileError Disk :=
  match disk.makeDirectory path with
  | .ok made => .ok made
  | .error error => if disk.isDirectory path then .ok disk else .error error

/-- Make a directory and, as far as they are missing, up to `depth` that lead to it. -/
def ensureDirectories (disk : Disk) (path : String) : Nat → Except FileError Disk
  | 0 => disk.ensureDirectory path
  | depth + 1 =>
    match disk.ensureDirectory path, parentPath? path with
    | .error .notFound, some parent => do
      (← disk.ensureDirectories parent depth).ensureDirectory path
    | made, _ => made

/-- Make a directory and, as far as they are missing, those that lead to it. -/
def makeDirectories (disk : Disk) (path : String) : Except FileError Disk :=
  disk.ensureDirectories path path.length

/-- Take away a file or a link. -/
def removeFile (disk : Disk) (path : String) : Except FileError Disk := do
  match ← disk.resolve false path with
  | (_, none) => .error .notFound
  | (_, some .directory) => .error .isDirectory
  | (location, some _) => return disk.delete location

/-- Make a link. -/
def makeLink (disk : Disk) (path target : String) : Except FileError Disk := do
  match ← disk.resolve false path with
  | (_, some _) => .error .alreadyExists
  | (location, none) => return disk.put location (.link target)

/-- Let a file be modified at an instant. -/
def setModified (disk : Disk) (path : String) (instant : Time.Instant) : Except FileError Disk := do
  match ← disk.find path with
  | (location, .file content _) => return disk.put location (.file content instant)
  | _ => return disk

/-- The nodes below a location, with the names that lead to them from there. -/
def below (disk : Disk) (location : Location) : List (Location × Node) :=
  disk.nodes.filterMap fun (place, node) =>
    if location.isPrefixOf place && location.length < place.length then
      some (place.drop location.length, node)
    else none

end Disk

end QualityGate
