import QualityGate.Json.Printer
import QualityGate.Run.Pipeline
import QualityGate.Unit.Verifier

/-!
# A project in memory

A project whose files, stores and processes are plain values, so that whatever the ports do can be
computed.  Processes follow a script, any port can be made to fail, and the calls that matter to a
run are recorded in order.
-/

namespace QualityGate

/-- How the process of a stage goes. -/
structure ScriptedProcess where
  exitCode : Int := 0
  stdout : String := ""
  stderr : String := ""
  durationMs : Nat := 1
  /-- The process is ended by a signal, which may be unknown. -/
  signal : Option (Option Int) := none
  /-- The process runs out of time. -/
  timeoutMs : Option Nat := none
  /-- The process cannot be started. -/
  spawnError : Option String := none
  deriving DecidableEq, Repr

/-- A recorded call. -/
inductive Call where
  | execute (invocation : Invocation)
  | verify (unit : String)
  | changedPaths
  | anyModifiedAfter (prefixes : List String) (since : Time.Instant)
  | saveBaseline (instant : Time.Instant)
  deriving DecidableEq, Repr

/-- A project in memory. -/
structure MemoryProject where
  files : List (String × Text.Bytes) := []
  /-- Files that cannot be read, with the reason. -/
  denied : List (String × String) := []
  dirs : List String := []
  /-- The answer to whether tracked files are newer than the marker. -/
  newer : Option Bool := none
  /-- The changed paths, if they are known. -/
  diff : Option (List String) := none
  baseline : Option String := none
  script : List (String × ScriptedProcess) := []
  /-- The units that a scripted gate does not trust. -/
  drifted : List (String × List DriftReason) := []
  /-- The names of the operations that fail. -/
  broken : List String := []
  manifests : List (String × String) := []
  artifacts : List (String × String) := []
  now : Time.Instant := ⟨0, 0⟩
  /-- The recorded calls, the latest first. -/
  calls : List Call := []

namespace MemoryProject

/-- An association list with a new value for a key. -/
def put (key : String) (value : α) (entries : List (String × α)) : List (String × α) :=
  (key, value) :: entries.filter (·.1 != key)

/-- An association list without a key. -/
def delete (key : String) (entries : List (String × α)) : List (String × α) :=
  entries.filter (·.1 != key)

/-- Record a call. -/
def record (call : Call) : StateM MemoryProject Unit :=
  modify fun project => { project with calls := call :: project.calls }

/-- An operation that fails when its name is among the broken ones. -/
def guarded (name : String) (operation : StateM MemoryProject α) : PortM MemoryProject α := do
  if (← get).broken.contains name then throw ⟨s!"{name} failed", []⟩
  else operation

/-- The paths of the files, in order. -/
def paths (project : MemoryProject) : List String := Text.sorted (project.files.map (·.1))

/-- The content of a file. -/
def reader (project : MemoryProject) : Reader := fun path =>
  match project.denied.lookup path, project.files.lookup path with
  | some error, _ => .error error
  | none, some bytes => .ok bytes
  | none, none => .error "no such file"

/-- The files that match any of the globs. -/
def listMatching (globs : List String) : PortM MemoryProject (List String) := do
  match Glob.ofStrings globs with
  | .error error => throw ⟨error.message, []⟩
  | .ok globs =>
    guarded "list" do return (← get).paths.filter (Glob.anyAdmits globs)

/-- The tree of the project. -/
def workspace : Workspace MemoryProject where
  root := "/project"
  dirExists path := do return (← get).dirs.contains path
  fileExists path := do return ((← get).files.lookup path).isSome
  anyMatches globs := do
    match ← (listMatching globs).run with
    | .ok files => return ! files.isEmpty
    | .error _ => return false
  listMatching := listMatching
  anyModifiedAfter prefixes since := do
    record (.anyModifiedAfter prefixes since)
    return (← get).newer

/-- The source of changes. -/
def diffProvider : DiffProvider MemoryProject where
  changedPaths := do
    record .changedPaths
    match (← get).diff with
    | some paths => return paths
    | none => throw ⟨"not a git repository", []⟩

/-- The store of the marker. -/
def baselineStore : BaselineStore MemoryProject where
  load := guarded "baseline.load" do return (← get).baseline
  save instant := guarded "baseline.save" do
    record (.saveBaseline instant)
    modify fun project => { project with baseline := some (Time.documentText instant) }

/-- The store of the manifests. -/
def manifestStore : ManifestStore MemoryProject where
  load unit := guarded "store.load" do return (← get).manifests.lookup unit
  save manifest := guarded "store.save" do
    modify fun project => { project with
      manifests := put manifest.unit manifest.toJson.toCompact project.manifests }
  expire unit := guarded "store.expire" do
    modify fun project => { project with manifests := delete unit project.manifests }

/-- The store of the artifacts. -/
def artifactStore : ArtifactStore MemoryProject where
  read path := guarded "artifacts.read" do return (← get).artifacts.lookup path
  write path text := guarded "artifacts.write" do
    modify fun project => { project with artifacts := put path text project.artifacts }
  remove path := guarded "artifacts.remove" do
    modify fun project => { project with artifacts := delete path project.artifacts }

/-- The result of a scripted process that can be started. -/
def resultOf (process : ScriptedProcess) (stageId : String) : ProcessResult :=
  let termination := match process.signal, process.timeoutMs with
    | some signal, _ => .signaled signal
    | none, some limitMs => .timedOut limitMs
    | none, none => .exited process.exitCode
  let exitCode := match termination with
    | .exited code => code
    | _ => -1
  ⟨stageId, exitCode, termination, process.stdout, process.stderr, process.durationMs⟩

/-- What runs the scripted processes. -/
def runner : Runner MemoryProject where
  execute invocation := do
    record (.execute invocation)
    let process := ((← get).script.lookup invocation.stageId).getD {}
    match process.spawnError with
    | some error => throw ⟨s!"failed to spawn '{invocation.command}'", [error]⟩
    | none => return resultOf process invocation.stageId

/-- A gate that follows the script. -/
def scriptedGate : DriftGate MemoryProject where
  verify unit := do
    record (.verify unit)
    match (← get).drifted.lookup unit with
    | some reasons => return .drift reasons
    | none => return .ok

/-- A clock that stands still. -/
def clock : Clock MemoryProject where
  now := do return (← get).now
  ticksMs := return 0

/-- The operations on some units. -/
def verifier (units : List ConfigUnit) (algorithm : Algorithm) : UnitVerifier MemoryProject where
  units := units
  workspace := workspace
  contents := do return (← get).reader
  manifests := manifestStore
  artifacts := artifactStore
  algorithm := algorithm

/-- What a run works with. -/
def context (drift : DriftGate MemoryProject) (secondary : Option SecondarySuite)
    (defaultTimeoutSecs : Nat) (fileScope : FileScope) : RunContext MemoryProject where
  runner := runner
  workspace := workspace
  diff := diffProvider
  baseline := baselineStore
  drift := drift
  clock := clock
  secondary := secondary
  defaultTimeoutSecs := defaultTimeoutSecs
  fileScope := fileScope

/-- The source of evidence. -/
def probe : ScopeProbe MemoryProject := ⟨diffProvider, workspace, baselineStore⟩

end MemoryProject

end QualityGate
