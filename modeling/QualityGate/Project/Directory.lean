import QualityGate.Host.Basic
import QualityGate.Json.Printer
import QualityGate.Process.Launch
import QualityGate.Rule.Fix
import QualityGate.Unit.Verifier

/-!
# A project in a directory

The ports of a project whose files, manifests and marker lie in a directory.  Next to its own files
it keeps a directory of state, with the marker of the last verification and one file per manifest.

* Directories that hold dependencies, build results or state are not looked into, unless a search
  begins there.
* Links are not followed where files are listed, but reading goes through them.
* A file is always written as a whole.
-/

namespace QualityGate

/-- A project in a directory. -/
structure ProjectDirectory where
  /-- The path of the directory. -/
  root : String
  deriving DecidableEq, Repr

namespace ProjectDirectory

/-- The names of directories that are not looked into. -/
def skippedNames : List String := [".git", ".qualities", "node_modules", "target"]

/-- The name of the directory of state. -/
def stateName : String := ".qualities"

/-- The files below a location, by the names that lead to them from there, with the instants at
which they were modified. -/
def filesBelow (disk : Disk) (location : Location) : List (List String × Time.Instant) :=
  (disk.below location).filterMap fun (names, node) =>
    match node with
    | .file _ modified =>
      if names.dropLast.any skippedNames.contains then none else some (names, modified)
    | _ => none

/-- The instants at which the files of a subtree were modified.  A link to a directory stands for
the directory, a link to a file for nothing. -/
def modifiedIn (disk : Disk) (path : String) : List Time.Instant :=
  match disk.resolve false path, disk.find path with
  | .ok (_, some (.file _ modified)), _ => [modified]
  | _, .ok (location, .directory) => (filesBelow disk location).map (·.2)
  | _, _ => []

/-- A path without the `./` at its start, however often. -/
def dropCurrent : List Char → List Char
  | '.' :: '/' :: rest => dropCurrent rest
  | path => path

/-- A path of the project as a path of the host. -/
def path (project : ProjectDirectory) (relative : String) : String :=
  joinPath project.root relative

/-- The paths of the files of the project. -/
def files (project : ProjectDirectory) (disk : Disk) : Except FileError (List String) := do
  let (location, _) ← disk.find project.root
  return (filesBelow disk location).map fun (names, _) => Path.normalize ("/".intercalate names)

/-- The files that match any of the globs, in order. -/
def listMatching (project : ProjectDirectory) (globs : List String) :
    PortM Host (List String) := do
  match Glob.ofStrings globs with
  | .error error => throw ⟨error.message, []⟩
  | .ok globs =>
    match project.files (← get).disk with
    | .error cause =>
      let heading := s!"IO error for operation on {project.root}: {cause.message}"
      throw (Host.failure (some heading) cause)
    | .ok files => return Text.sorted (files.filter (Glob.anyAdmits globs))

/-- The tree of the project. -/
def workspace (project : ProjectDirectory) : Workspace Host where
  root := project.root
  dirExists relative := do
    return ! Text.isBlankString relative && (← get).disk.isDirectory (project.path relative)
  fileExists relative := do return (← get).disk.isFile (project.path relative)
  anyMatches globs := do
    match ← (project.listMatching globs).run with
    | .ok files => return ! files.isEmpty
    | .error _ => return false
  listMatching := project.listMatching
  anyModifiedAfter prefixes since := do
    let disk := (← get).disk
    let starts := prefixes.map fun start =>
      project.path (String.ofList (dropCurrent start.toList))
    return some ((starts.flatMap (modifiedIn disk)).any (·.isAfter since))

/-- The contents of the project as they are at the moment. -/
def contents (project : ProjectDirectory) : StateM Host Reader := do
  let disk := (← get).disk
  return fun relative => (disk.read (project.path relative)).mapError FileError.message

/-- The path in the directory of state. -/
def statePath (project : ProjectDirectory) (name : String) : String :=
  joinPath (project.path stateName) name

/-- A byte of a name as it stands in the name of a file: letters, digits and `.`, `_`, `-` stand for
themselves, and any other byte is written with its two digits. -/
def fileNameByte (byte : UInt8) : List Char :=
  let c := Char.ofNat byte.toNat
  if c.isAlphanum || c == '.' || c == '_' || c == '-' then [c]
  else '%' :: (Text.hexOfByte byte).map Char.toUpper

/-- The name of the file for a unit; different units have different files. -/
def manifestName (unit : String) : String :=
  String.ofList ((Text.bytesOf unit).flatMap fileNameByte) ++ ".json"

/-- The path of the directory of the manifests. -/
def manifestsPath (project : ProjectDirectory) : String := project.statePath "manifests"

/-- The path of the file for a unit. -/
def manifestPath (project : ProjectDirectory) (unit : String) : String :=
  joinPath project.manifestsPath (manifestName unit)

/-- The store of the manifests. -/
def manifestStore (project : ProjectDirectory) : ManifestStore Host where
  load unit := Host.readFile? (project.manifestPath unit)
  save manifest :=
    Host.replaceFile (project.manifestPath manifest.unit)
      (Text.bytesOf (manifest.toJson.toPretty ++ "\n"))
  expire unit := Host.removeFile? (project.manifestPath unit)

/-- The path of the marker of the last verification. -/
def markerPath (project : ProjectDirectory) : String := project.statePath "last-verified"

/-- The store of the marker, which is kept to the second. -/
def baselineStore (project : ProjectDirectory) : BaselineStore Host where
  load := Host.readFile? project.markerPath
  save instant :=
    Host.replaceFile project.markerPath (Text.bytesOf (Time.secondsText instant ++ "\n"))

/-- The store of the artifacts. -/
def artifactStore (project : ProjectDirectory) : ArtifactStore Host where
  read relative := Host.readFile? (project.path relative)
  write relative text := Host.replaceFile (project.path relative) (Text.bytesOf text)
  remove relative := Host.removeFile? (project.path relative)

/-- Write fixes one after the other; the first failure ends it. -/
def applyFixes (project : ProjectDirectory) (fixes : List FileFix) : PortM Host Unit :=
  fixes.forM fun fix => Host.replaceFile (project.path fix.path) (Text.bytesOf fix.updated)

/-- The changed paths of a repository against a revision, as seen from the project. -/
def changedPaths (project : ProjectDirectory) (revision : String) (host : Host) :
    Except PortError (List String) :=
  match host.repositoryAt? project.root, host.disk.find project.root with
  | some repository, .ok (location, _) =>
    if repository.bare then .error ⟨"bare repository has no working tree", []⟩
    else match (repository.resolve? revision).bind (·.snapshot?) with
      | none => .error ⟨s!"cannot resolve baseline {revision}", []⟩
      | some snapshot =>
        .ok (Repository.relativeTo (location.drop repository.top.length)
          (repository.changes host.disk snapshot))
  | _, _ => .error ⟨s!"not a git repository: {project.root}", []⟩

/-- The source of changes, which compares with a revision. -/
def diffProvider (project : ProjectDirectory) (revision : String) : DiffProvider Host where
  changedPaths := do
    match project.changedPaths revision (← get) with
    | .ok paths => return paths
    | .error error => throw error

/-- What runs processes.  Time passes as long as a process runs. -/
def runner : Runner Host where
  execute invocation := do
    let host ← get
    match Process.run host.disk host.now invocation with
    | .ok (result, disk) =>
      set { host with disk := disk, now := host.now.plusMillis result.durationMs }
      return result
    | .error error => throw error

/-- The clock of the host, which stands still unless a process runs. -/
def clock : Clock Host where
  now := do return (← get).now
  ticksMs := return 0

/-- The operations on the units of a project. -/
def verifier (project : ProjectDirectory) (units : List ConfigUnit) (algorithm : Algorithm) :
    UnitVerifier Host where
  units := units
  workspace := project.workspace
  contents := project.contents
  manifests := project.manifestStore
  artifacts := project.artifactStore
  algorithm := algorithm

end ProjectDirectory

end QualityGate
