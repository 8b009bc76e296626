import QualityGate.Shell.Program.Basic

/-!
# Programs for files

Programs that make, copy, move, list and take away files and directories.
-/

namespace QualityGate.Shell.Program

open QualityGate.Text (Bytes)
open ShellM

/-- Print files. -/
def cat : Program := fun arguments => do
  let (_, paths) := options arguments
  forAll (if paths.isEmpty then ["-"] else paths) fun path => do
    match ← contentOf (plainly "cat") path with
    | some content => do
      put content
      return true
    | none => return false

/-- Make files, or let them be modified now. -/
def touch : Program := fun arguments => do
  let (given, paths) := valuedOptions ['d', 't', 'r'] arguments
  if paths.isEmpty then missing "touch" "file operand"
  else forAll paths fun path => do
    let place ← located path
    let complaint := s!"touch: cannot touch '{path}'"
    changing complaint fun disk now =>
      if disk.pathExists place then disk.setModified place now
      else if given.any (·.1 == 'c') then return disk
      else disk.write now place []

/-- Make directories. -/
def mkdir : Program := fun arguments => do
  let (given, paths) := valuedOptions ['m'] arguments
  if paths.isEmpty then missing "mkdir" "operand"
  else forAll paths fun path => do
    let place ← located path
    let complaint := s!"mkdir: cannot create directory '{path}'"
    changing complaint fun disk _ =>
      if given.any (·.1 == 'p') then disk.makeDirectories place else disk.makeDirectory place

/-- Take away an empty directory. -/
def removeDirectory (disk : Disk) (path : String) : Except FileError Disk := do
  match ← disk.resolve false path with
  | (location, some .directory) =>
    if (disk.below location).isEmpty then return disk.delete location else .error .notEmpty
  | (_, some _) => .error .notDirectory
  | (_, none) => .error .notFound

/-- Take away empty directories. -/
def rmdir : Program := fun arguments => do
  let (_, paths) := options arguments
  if paths.isEmpty then missing "rmdir" "operand"
  else forAll paths fun path => do
    let place ← located path
    let complaint := s!"rmdir: failed to remove '{path}'"
    changing complaint fun disk _ => removeDirectory disk place

/-- Take away files, and directories with everything in them. -/
def rm : Program := fun arguments => do
  let (letters, paths) := options arguments
  let forced := letters.contains 'f'
  let recursive := letters.contains 'r' || letters.contains 'R'
  if paths.isEmpty && ! forced then missing "rm" "operand"
  else forAll paths fun path => do
    let place ← located path
    let complaint := s!"rm: cannot remove '{path}'"
    changing complaint fun disk _ => do
      match disk.resolve false place with
      | .ok (location, some .directory) =>
        if recursive then return disk.deleteTree location
        else if letters.contains 'd' then removeDirectory disk place
        else .error .isDirectory
      | .ok (location, some _) => return disk.delete location
      | .ok (_, none) | .error .notFound => if forced then return disk else .error .notFound
      | .error error => .error error

/-- The path of a file that is copied or moved to another path, which may be a directory. -/
def destination (disk : Disk) (source target : String) : String :=
  if disk.isDirectory target then
    joinPath target ((pathNames source).getLast?.getD "")
  else target

/-- Copy a directory with everything in it. -/
def copyTree (disk : Disk) (location : Location) (target : String) : Except FileError Disk := do
  let made ← if disk.pathExists target then .ok disk else disk.makeDirectory target
  let (goal, _) ← made.find target
  return (disk.below location).foldl (fun made (names, node) => made.put (goal ++ names) node) made

/-- Copy or move one file to a path. -/
def transferOne (name : String) (removes recursive : Bool) (path goal : String) :
    ShellM Bool := do
  let place ← located path
  let disk := (← get).disk
  let target := destination disk path (← located goal)
  match disk.find place with
  | .error error => do
    complain s!"{name}: cannot stat '{path}': {error.text}"
    return false
  | .ok (location, .directory) =>
    if removes || recursive then
      let kind := if removes then "move" else "create directory"
      changing s!"{name}: cannot {kind} '{goal}'" fun disk _ => do
        let disk ← copyTree disk location target
        return if removes then disk.deleteTree location else disk
    else
      complain s!"{name}: -r not specified; omitting directory '{path}'"
      return false
  | .ok (location, _) =>
    if target = place then
      complain s!"{name}: '{path}' and '{goal}' are the same file"
      return false
    else
      let what := if removes then s!"cannot move '{path}' to" else "cannot create regular file"
      changing s!"{name}: {what} '{goal}'" fun disk now => do
        let content ← disk.read place
        let disk ← disk.write now target content
        return if removes then disk.delete location else disk

/-- Copy or move files. -/
def transfer (name : String) (removes : Bool) : Program := fun arguments => do
  let (letters, operands) := options arguments
  let recursive := letters.any ['r', 'R', 'a'].contains
  match operands.reverse with
  | [] => missing name "file operand"
  | [path] => missing name s!"destination file operand after '{path}'"
  | goal :: sources =>
    if sources.length > 1 && ! (← get).disk.isDirectory (← located goal) then
      complain s!"{name}: target '{goal}' is not a directory"
      return 1
    else forAll sources.reverse fun path => transferOne name removes recursive path goal

/-- Make a link. -/
def ln : Program := fun arguments => do
  let (letters, operands) := options arguments
  match operands with
  | [target, path] => do
    let place ← located path
    let kind := if letters.contains 's' then "symbolic" else "hard"
    let source ← located target
    let made ← changing s!"ln: failed to create {kind} link '{path}'" fun disk now => do
      let disk := if letters.contains 'f' then (disk.removeFile place).toOption.getD disk else disk
      if letters.contains 's' then disk.makeLink place target
      else disk.write now place (← disk.read source)
    return if made then 0 else 1
  | [] => missing "ln" "file operand"
  | _ => return 1

/-- Change the modes of files, which the disk does not keep. -/
def chmod : Program := fun arguments => do
  match arguments.filter (· != "-R") with
  | [] => missing "chmod" "operand"
  | [mode] => missing "chmod" s!"operand after '{mode}'"
  | _ :: paths => forAll paths fun path => do
    match (← get).disk.find (← located path) with
    | .ok _ => return true
    | .error error =>
      complain s!"chmod: cannot access '{path}': {error.text}"
      return false

/-- The names in a directory that are shown. -/
def namesIn (letters : List Char) (disk : Disk) (location : Location) : List String :=
  let names := (disk.below location).filterMap fun (names, _) => match names with
    | [name] => some name
    | _ => none
  let all := if letters.contains 'a' then [".", ".."] ++ names else names
  let shown := if letters.contains 'a' || letters.contains 'A' then all
    else all.filter (! ·.startsWith ".")
  let inOrder := Text.sorted shown
  if letters.contains 'r' then inOrder.reverse else inOrder

/-- The directories below another one, in order. -/
def directoriesBelow (disk : Disk) (location : Location) : List Location :=
  let directories := (disk.below location).filter (·.2 == .directory)
  (directories.map (·.1)).mergeSort fun a b => !b.lex a (· < ·)

/-- Print the names in directories. -/
def ls : Program := fun arguments => do
  let (letters, operands) := options arguments
  let paths := Text.sorted (if operands.isEmpty then ["."] else operands)
  let disk := (← get).disk
  let found ← paths.filterMapM fun path => do
    match disk.find (← located path) with
    | .ok (location, node) => return some (path, location, node)
    | .error error =>
      complain s!"ls: cannot access '{path}': {error.text}"
      return none
  let isListed := fun (node : Node) => node == .directory && ! letters.contains 'd'
  let (directories, files) := found.partition fun (_, _, node) => isListed node
  for (path, _, _) in files do
    line path
  let below := if letters.contains 'R' then directories.flatMap fun (path, location, _) =>
      (path, location, Node.directory) :: (directoriesBelow disk location).map fun names =>
        (joinPath path ("/".intercalate names), location ++ names, Node.directory)
    else directories
  for ((path, location, _), place) in below.zipIdx do
    if place != 0 || ! files.isEmpty then line ""
    if paths.length > 1 || letters.contains 'R' then line s!"{path}:"
    (namesIn letters disk location).forM line
  return if found.length = paths.length then 0 else 2

/-- Print the directory. -/
def pwd : Program := fun _ => do
  line (← get).directory
  return 0

/-- Print the last name of a path, without an ending. -/
def basename : Program
  | path :: endings => do
    let name := ((Text.splitOn '/' path.toList).filter (! ·.isEmpty)).getLast?.getD ['/']
    let shown := match endings with
      | ending :: _ => (Text.stripSuffix? ending.toList name).getD name
      | [] => name
    line (String.ofList (if shown.isEmpty then name else shown))
    return 0
  | [] => return 1

/-- Print the path of the directory of a path. -/
def dirname : Program := fun paths => do
  for path in paths do
    line (match parentPath? path with
      | some "" => "."
      | some parent => parent
      | none => "/")
  return 0

end QualityGate.Shell.Program
