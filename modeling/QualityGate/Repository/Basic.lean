import QualityGate.Repository.Ignore
import QualityGate.Text.Order

/-!
# Repositories

A repository keeps snapshots of a directory, its work tree.  The history is a line of snapshots;
tags name points on it.  The *index* is the snapshot that the next one would be.
-/

namespace QualityGate

open QualityGate.Text (Bytes)

/-- Files with their contents, by path. -/
abbrev Snapshot := List (String × Bytes)

/-- A repository. -/
structure Repository where
  /-- Where the repository is. -/
  top : Location
  /-- There is no work tree. -/
  bare : Bool := false
  /-- The snapshots, the latest first. -/
  history : List Snapshot := []
  /-- The named points, each with the history up to it. -/
  tags : List (String × List Snapshot) := []
  index : Snapshot := []
  deriving Repr

namespace Repository

/-- The directory in which a repository keeps its own files. -/
def storeName : String := ".git"

/-- The files of the work tree; a link counts as a file with the path it leads to. -/
def workTree (repository : Repository) (disk : Disk) : Snapshot :=
  (disk.below repository.top).filterMap fun (names, node) =>
    if names.head? == some storeName then none
    else match node with
      | .file content _ => some ("/".intercalate names, content)
      | .link target => some ("/".intercalate names, Text.bytesOf target)
      | .directory => none

/-- Whether a path of the work tree is ignored. -/
def ignores (repository : Repository) (disk : Disk) (path : String) : Bool :=
  isIgnored disk repository.top (pathNames path)

/-- The files of the work tree that are not ignored, or that the index has. -/
def tracked (repository : Repository) (disk : Disk) : Snapshot :=
  (repository.workTree disk).filter fun (path, _) =>
    (repository.index.lookup path).isSome || ! repository.ignores disk path

/-- Take a snapshot of the work tree. -/
def commit (repository : Repository) (disk : Disk) : Repository :=
  let snapshot := repository.tracked disk
  { repository with history := snapshot :: repository.history, index := snapshot }

/-- Put a file of the work tree into the index, or take it out when it is gone. -/
def stage (repository : Repository) (disk : Disk) (path : String) : Repository :=
  let others := repository.index.filter (·.1 != path)
  match (repository.workTree disk).lookup path with
  | some content => { repository with index := (path, content) :: others }
  | none => { repository with index := others }

/-- Name the latest snapshot. -/
def tag (repository : Repository) (name : String) : Repository :=
  { repository with tags := (name, repository.history) :: repository.tags.filter (·.1 != name) }

/-- The repository that a directory belongs to: the one at the directory or above it. -/
def discover? (repository : Option Repository) (disk : Disk) (path : String) : Option Repository :=
  match disk.find path, repository with
  | .ok (location, _), some repository =>
    if repository.top.isPrefixOf location then some repository else none
  | _, _ => none

end Repository

end QualityGate
