import QualityGate.Command.Arguments
import QualityGate.Config.Starter
import QualityGate.Config.Validation
import QualityGate.Output.Run
import QualityGate.Output.Scan
import QualityGate.Output.Scope
import QualityGate.Output.Unit
import QualityGate.Project.Directory
import QualityGate.Run.Pipeline

/-!
# Doing what the command is asked for

The command works on the project that its directory belongs to: the work tree of the repository
around it, or else the directory itself.  Every action but two needs a configuration there.

* An action that fails prints nothing, reports its error with all causes in one line, and ends with
  code 1.  What it has written before it failed stays.
* Code 1 without an error is the verdict of an action that went through: violations, a failed gate,
  or expired units.
* Arguments that make no sense end with code 2.
-/

namespace QualityGate.Command

/-- The name and the version of the command. -/
def programVersion : String × String := ("qualities", "0.1.0")

/-- What a call of the command leads to. -/
structure Outcome where
  /-- What is printed. -/
  output : String := ""
  code : Nat := 0
  /-- What is reported as an error. -/
  error : Option String := none
  deriving DecidableEq, Repr

/-- The outcome of an action that went through, with its verdict. -/
def Outcome.ofResult (json passed : Bool) (record : Json) (human : String) : Outcome where
  output := if json then record.document else human
  code := if passed then 0 else 1

/-- The outcome of an action that failed. -/
def Outcome.ofError (error : PortError) : Outcome where
  code := 1
  error := some error.chain

/-- A project with its configuration. -/
structure LoadedProject where
  directory : ProjectDirectory
  config : Config

/-- The file name of the configuration. -/
def configName : String := ".qualities.toml"

/-- The project that a directory belongs to. -/
def projectAt (host : Host) (start : String) : ProjectDirectory :=
  ⟨(host.workTree? start).getD (host.physicalPath start)⟩

/-- A result as an operation. -/
def settled (describe : e → PortError) : Except e α → PortM Host α
  | .ok value => return value
  | .error error => throw (describe error)

/-- An error of a configuration, with its causes. -/
def ofConfigError (error : ConfigError) : PortError := ⟨error.message, error.causes⟩

/-- An error of a rule, with its causes. -/
def ofRuleError (error : RuleError) : PortError := ⟨error.message, error.causes⟩

/-- An error of a unit, with its causes. -/
def ofManifestError (error : ManifestError) : PortError := ⟨error.message, error.causes⟩

/-- An error of a glob. -/
def ofGlobError (error : GlobError) : PortError := ⟨error.message, []⟩

/-- An operation on a unit as one of the command. -/
def onUnit (operation : UnitM Host α) : PortM Host α := ExceptT.adapt ofManifestError operation

/-- Read the configuration of the project that a directory belongs to. -/
def loadProject (start : String) : PortM Host LoadedProject := do
  let host ← get
  let directory := projectAt host start
  let path := directory.path configName
  if ! host.disk.pathExists path then
    throw ⟨s!"No {configName} found. Run 'qualities init' first.", []⟩
  let text ← settled (fun cause => ofConfigError (.unreadable path cause.message))
    (host.disk.readText path)
  let config ← settled ofConfigError (Config.parse text)
  return ⟨directory, config⟩

namespace LoadedProject

/-- The operations on the units. -/
def verifier (project : LoadedProject) : UnitVerifier Host :=
  project.directory.verifier project.config.units project.config.project.algorithm

/-- The source of changes. -/
def diff (project : LoadedProject) : DiffProvider Host :=
  project.directory.diffProvider project.config.project.baselineRef

/-- The source of evidence. -/
def probe (project : LoadedProject) : ScopeProbe Host :=
  ⟨project.diff, project.directory.workspace, project.directory.baselineStore⟩

/-- What a run works with. -/
def context (project : LoadedProject) (fileScope : FileScope) : RunContext Host where
  runner := ProjectDirectory.runner
  workspace := project.directory.workspace
  diff := project.diff
  baseline := project.directory.baselineStore
  drift := project.verifier.gate
  clock := ProjectDirectory.clock
  secondary := project.config.secondary
  defaultTimeoutSecs := project.config.project.defaultTimeoutSecs
  fileScope := fileScope

/-- Run the stages.  Only a gate gives a verdict. -/
def run (project : LoadedProject) (json : Bool) (scope : RunScope) (fileScope : FileScope) :
    PortM Host Outcome := do
  let report : RunReport ← liftM (m := StateM Host)
    ((project.context fileScope).run project.config.stages scope)
  let result : RunResult := ⟨scope, report⟩
  return .ofResult json (report.success || ! scope.isGate) result.toJson (result.human false)

/-- The files that a scan looks at: those that are named, or else what the globs of the project
select, which may be narrowed to what has changed. -/
def scannedFiles (project : LoadedProject) (paths : List String) (fileScope : FileScope) :
    PortM Host (List String) := do
  let sources := project.config.project.sources
  let all := project.directory.listMatching sources
  if ! paths.isEmpty then return paths
  else match fileScope with
    | .full => all
    | .changedOnly => do
      let globs ← settled ofGlobError (Glob.ofStrings sources)
      let changed : Option (List String) ← liftM (m := StateM Host) project.probe.changedFiles
      match FileSelection.narrow fileScope changed globs with
      | .changed files => return files
      | .fullTree => all

/-- Scan files, and write the fixes when they are asked for. -/
def scan (project : LoadedProject) (json : Bool) (paths rules : List String)
    (fileScope : FileScope) (fix : Bool) : PortM Host Outcome := do
  let set ← settled ofRuleError (RuleSet.build project.config.rules project.config.locale)
  let set ← if rules.isEmpty then pure set else settled ofRuleError (set.retain rules)
  let files ← project.scannedFiles paths fileScope
  let read : Reader ← liftM (m := StateM Host) project.directory.contents
  let (report, sources) := set.scan read files
  let fixes := if fix then Fix.plan sources report.violations set else []
  project.directory.applyFixes fixes
  let result : ScanResult :=
    ⟨report.passed, report.filesScanned, report.violations, report.skipped, fixes⟩
  return .ofResult json report.passed result.toJson (result.human false)

/-- The names of the units that an action is about. -/
def unitNames (project : LoadedProject) : Option String → PortM Host (List String)
  | some id => do
    let _ ← settled ofManifestError (project.verifier.unit id)
    return [id]
  | none => return project.config.units.map (·.id)

/-- Generate manifests, one after the other. -/
def generate (project : LoadedProject) (json : Bool) (unit : Option String) :
    PortM Host Outcome := do
  let names ← project.unitNames unit
  if names.isEmpty then throw ⟨s!"No configuration units declared in {configName}", []⟩
  let now := (← get).now
  let generated ← names.mapM fun id => do
    let manifest ← onUnit (project.verifier.generate id now)
    return (⟨manifest.unit, manifest.unitDigest, manifest.files.length⟩ : GeneratedManifest)
  return .ofResult json true (GeneratedManifest.toJson generated) (GeneratedManifest.human generated)

/-- Check one unit; when that is asked for, it is expired unless it is fresh. -/
def checkUnit (project : LoadedProject) (expire : Bool) (id : String) : PortM Host UnitCheck := do
  let status ← onUnit (project.verifier.status id)
  let expired := expire && ! status.isFresh
  if expired then onUnit (project.verifier.expire id)
  return ⟨id, status, expired⟩

/-- Check units. -/
def check (project : LoadedProject) (json : Bool) (unit : Option String) (expire : Bool) :
    PortM Host Outcome := do
  let units ← (← project.unitNames unit).mapM (project.checkUnit expire)
  let passed := units.all (·.status.isFresh)
  let result : UnitCheckResult := ⟨passed, units⟩
  return .ofResult json passed result.toJson (result.human false)

/-- Show what is stored for a unit. -/
def showManifest (project : LoadedProject) (json : Bool) (unit : String) : PortM Host Outcome := do
  let _ ← settled ofManifestError (project.verifier.unit unit)
  let result : StoredManifest := match ← project.directory.manifestStore.load unit with
    | none => ⟨unit, none, none⟩
    | some raw =>
      match Manifest.parse raw with
      | .ok manifest => ⟨unit, some manifest, none⟩
      | .error problem => ⟨unit, none, some (DriftReason.malformed problem.message).text⟩
  return .ofResult json true result.toJson result.human

/-- Show the scope of the next run: what it would decide about the secondary suite and, when that is
asked for, what the lint stages would look at. -/
def showScope (project : LoadedProject) (json changedOnly : Bool) : PortM Host Outcome := do
  let changed : Option (List String) ← liftM (m := StateM Host) project.probe.changedPaths
  let secondary ← project.config.secondary.mapM fun suite => do
    let evidence : ScopeEvidence ← liftM (m := StateM Host) (project.probe.gatherWith suite changed)
    return (evidence, evidence.decide suite)
  let existing : Option (List String) ← changed.mapM fun paths =>
    liftM (m := StateM Host) (ScopeProbe.existing project.directory.workspace paths)
  let stages := if changedOnly then project.config.stages.filter (·.kind = .lint) else []
  let narrowed ← stages.mapM fun stage => do
    let globs ← settled ofGlobError (Glob.ofStrings stage.files)
    let files := (FileSelection.narrow .changedOnly existing globs).files?
    return (⟨stage.id, files⟩ : NarrowedStage)
  let result : ScopeResult := ⟨secondary, narrowed⟩
  return .ofResult json true result.toJson (result.human false)

/-- Show the marker of the last verification; a blank one is none. -/
def showBaseline (project : LoadedProject) (json marked : Bool) : PortM Host Outcome := do
  let marker := (← project.directory.baselineStore.load).map Text.trimmed
  let result : BaselineResult := ⟨marker.filter (! ·.isEmpty), marked⟩
  return .ofResult json true result.toJson result.human

/-- Set the marker of the last verification to this moment. -/
def markBaseline (project : LoadedProject) (json : Bool) : PortM Host Outcome := do
  project.directory.baselineStore.save (← get).now
  project.showBaseline json true

end LoadedProject

/-- What is printed about a new project. -/
def initMessage : String :=
  let state := ProjectDirectory.stateName
  "\n".intercalate [s!"Created {configName} and {state}/", "", "Next steps:", "  qualities scan",
    "  qualities run --preflight"]

/-- Begin a project with the starter configuration and a directory of state. -/
def init (start : String) (json force : Bool) : PortM Host Outcome := do
  let host ← get
  let directory := projectAt host start
  let path := directory.path configName
  if host.disk.pathExists path && ! force then
    let result : OperationResult :=
      ⟨false, s!"Already initialized ({configName} exists). Use --force to overwrite."⟩
    return { Outcome.ofResult json false result.toJson (result.message ++ "\n") with
      error := some s!"{configName} already exists" }
  Host.write none path (Text.bytesOf Config.starter)
  Host.change none (·.makeDirectories directory.manifestsPath)
  Host.write none (directory.statePath ".gitignore") (Text.bytesOf "*\n")
  let result : OperationResult := ⟨true, initMessage⟩
  return .ofResult json true result.toJson (result.message ++ "\n")

/-- What is said about the version; the record is one line. -/
def version (json : Bool) : Outcome :=
  let (name, number) := programVersion
  let record := Json.obj [("version", .str number)]
  { output := if json then record.toCompact ++ "\n" else s!"{name} v{number}\n" }

/-- What is said when nothing is asked for; the record is one line. -/
def welcome (json : Bool) : Outcome :=
  let (_, number) := programVersion
  let record := Json.obj [("hint", .str "Use --help for usage"), ("version", .str number)]
  let hints := "\nRun 'qualities --help' for usage\nRun 'qualities init' to get started\n"
  if json then { output := record.toCompact ++ "\n" }
  else { output := (version false).output ++ hints }

/-- How the command is called. -/
def usage : String := "\n".intercalate [
  "Usage: qualities [-v] [--json] [COMMAND]", "",
  "  init [--force]",
  "  run [--ci | --preflight | --diagnostics] [--changed-only]",
  "  scan [PATH...] [--rule ID]... [--changed-only] [--fix]",
  "  manifest generate (UNIT | --all)",
  "  manifest check [UNIT | --all] [--expire]",
  "  manifest show UNIT",
  "  scope [--changed-only]",
  "  baseline (mark | show)",
  "  version", ""]

/-- Do what a request asks for. -/
def perform (start : String) (request : Request) : PortM Host Outcome := do
  let json := request.json
  match request.action with
  | .welcome => return welcome json
  | .version => return version json
  | .init force => init start json force
  | .run scope fileScope => (← loadProject start).run json scope fileScope
  | .scan paths rules fileScope fix => (← loadProject start).scan json paths rules fileScope fix
  | .generate unit => (← loadProject start).generate json unit
  | .check unit expire => (← loadProject start).check json unit expire
  | .showManifest unit => (← loadProject start).showManifest json unit
  | .showScope changedOnly => (← loadProject start).showScope json changedOnly
  | .markBaseline => (← loadProject start).markBaseline json
  | .showBaseline => (← loadProject start).showBaseline json false

/-- The outcome when there is nothing to do. -/
def Outcome.ofRefusal : Refusal → Outcome
  | .help => { output := usage }
  | .version => { output := s!"{programVersion.1} {programVersion.2}\n" }
  | .misuse => { code := 2, error := some "the arguments make no sense; try 'qualities --help'" }

/-- Call the command in a directory. -/
def call (start : String) (arguments : List String) : StateM Host Outcome := do
  match Request.ofArguments arguments with
  | .error refusal => return .ofRefusal refusal
  | .ok request =>
    match ← (perform start request).run with
    | .ok outcome => return outcome
    | .error error => return .ofError error

end QualityGate.Command
