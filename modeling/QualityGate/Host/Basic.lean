import QualityGate.Port.Basic
import QualityGate.Repository.Changes

/-!
# Hosts

A host is a disk at a moment, with the repository that may be on it.  Ports that work on files are
operations on a host.

An operation that fails changes nothing; of several operations those before the failure stay done.
-/

namespace QualityGate

open QualityGate.Text (Bytes)

/-- A disk at a moment. -/
structure Host where
  disk : Disk
  now : Time.Instant
  repository : Option Repository := none
  deriving Repr

namespace Host

/-- The error of an operation on files; without a heading the cause stands for itself. -/
def failure (heading : Option String) (cause : FileError) : PortError :=
  match heading with
  | some heading => ⟨heading, [cause.message]⟩
  | none => ⟨cause.message, []⟩

/-- Change the disk. -/
def change (heading : Option String) (operation : Disk → Except FileError Disk) :
    PortM Host Unit := do
  match operation (← get).disk with
  | .ok disk => modify fun host => { host with disk := disk }
  | .error cause => throw (failure heading cause)

/-- Write a file as a whole. -/
def write (heading : Option String) (path : String) (content : Bytes) : PortM Host Unit := do
  let now := (← get).now
  change heading (·.write now path content)

/-- Write a file as a whole; missing directories on the way to it are made. -/
def replaceFile (path : String) (content : Bytes) : PortM Host Unit := do
  match parentPath? path with
  | some parent => change (some s!"failed to create {parent}") (·.makeDirectories parent)
  | none => pure ()
  write (some s!"failed to write {path}") path content

/-- The text of a file, if there is one. -/
def readFile? (path : String) : PortM Host (Option String) := do
  match (← get).disk.readText path with
  | .ok text => return some text
  | .error .notFound => return none
  | .error cause => throw (failure (some s!"failed to read {path}") cause)

/-- Take away a file, if there is one. -/
def removeFile? (path : String) : PortM Host Unit := do
  match (← get).disk.removeFile path with
  | .ok disk => modify fun host => { host with disk := disk }
  | .error .notFound => return
  | .error cause => throw (failure (some s!"failed to remove {path}") cause)

/-- The path of a directory without links; a path that leads nowhere stays. -/
def physicalPath (host : Host) (path : String) : String :=
  match host.disk.find path with
  | .ok (location, _) => "/" ++ "/".intercalate location
  | .error _ => path

/-- The repository that a directory belongs to. -/
def repositoryAt? (host : Host) (path : String) : Option Repository :=
  Repository.discover? host.repository host.disk path

/-- The path that leads to a location; it ends with a slash. -/
def directoryPath (location : Location) : String := "/" ++ String.join (location.map (· ++ "/"))

/-- The work tree that a directory belongs to. -/
def workTree? (host : Host) (path : String) : Option String :=
  match host.repositoryAt? path with
  | some repository => if repository.bare then none else some (directoryPath repository.top)
  | none => none

/-- Begin a repository in a directory, if there is none yet. -/
def beginRepository (bare : Bool) (top : Location) (host : Host) : Host :=
  match host.repository with
  | some _ => host
  | none =>
    let store := top ++ [Repository.storeName]
    { host with
      disk := if bare then host.disk else host.disk.put store .directory
      repository := some { top := top, bare := bare } }

/-- Change the repository, if there is one. -/
def updateRepository (update : Repository → Disk → Repository) (host : Host) : Host :=
  { host with repository := host.repository.map (update · host.disk) }

end Host

end QualityGate
