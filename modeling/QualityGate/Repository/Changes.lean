import QualityGate.Repository.Revision

/-!
# Changed paths

A path is changed against a snapshot when the index differs from the snapshot there, or the work
tree from the index; files that the index does not have count unless they are ignored.  A path that
is neither in the snapshot nor in the work tree is not changed, whatever the index has.
-/

namespace QualityGate.Repository

/-- The changed paths against a snapshot, in order. -/
def changes (repository : Repository) (disk : Disk) (snapshot : Snapshot) : List String :=
  let index := repository.index
  let workTree := repository.workTree disk
  let tracked := repository.tracked disk
  let candidates := Text.sortedSet ((snapshot ++ index ++ tracked).map (·.1))
  candidates.filter fun path =>
    (snapshot.lookup path != index.lookup path || index.lookup path != tracked.lookup path)
      && ((snapshot.lookup path).isSome || (workTree.lookup path).isSome)

/-- Paths relative to a directory, of which only those below it are kept. -/
def relativeTo (directory : List String) (paths : List String) : List String :=
  if directory.isEmpty then paths
  else
    let front := ("/".intercalate directory ++ "/").toList
    paths.filterMap fun path => (Text.stripPrefix? front path.toList).map String.ofList

end QualityGate.Repository
