import QualityGate.Json.Decode
import QualityGate.Text.Blank

/-!
# Stages

A stage is one named step of the pipeline: an external command whose exit code is the whole
contract.  Only two kinds of stage are treated specially.  A lint stage may be narrowed to changed
files, and a test stage may be followed by the secondary suite.
-/

namespace QualityGate

/-- What a stage checks. -/
inductive StageKind where
  | policy
  | typecheck
  | lint
  | build
  | test
  | other
  deriving DecidableEq, Repr

/-- Whether a stage belongs to the gate, to the diagnostics, or to both. -/
inductive StageMode where
  | gateOnly
  | diagnosticsOnly
  | both
  deriving DecidableEq, Repr

/-- In which runs of the gate a stage takes part. -/
inductive StageScope where
  | ci
  | preflight
  | both
  | diagnosticsOnly
  deriving DecidableEq, Repr

/-- What a run is for. -/
inductive RunScope where
  /-- The gate, as the build server enforces it. -/
  | ci
  /-- The gate, as it is run locally. -/
  | preflight
  /-- A pass that blocks nothing. -/
  | diagnostics
  deriving DecidableEq, Repr

/-- The kinds with their names. -/
def StageKind.names : List (String × StageKind) := [("policy", .policy), ("typecheck", .typecheck),
  ("lint", .lint), ("build", .build), ("test", .test), ("other", .other)]

/-- The name of a kind. -/
def StageKind.name : StageKind → String
  | policy => "policy"
  | typecheck => "typecheck"
  | lint => "lint"
  | build => "build"
  | test => "test"
  | other => "other"

/-- The modes with their names. -/
def StageMode.names : List (String × StageMode) :=
  [("gate_only", .gateOnly), ("diagnostics_only", .diagnosticsOnly), ("both", .both)]

/-- The name of a mode. -/
def StageMode.name : StageMode → String
  | gateOnly => "gate_only"
  | diagnosticsOnly => "diagnostics_only"
  | both => "both"

/-- The scopes of stages with their names. -/
def StageScope.names : List (String × StageScope) := [("ci", .ci), ("preflight", .preflight),
  ("both", .both), ("diagnostics_only", .diagnosticsOnly)]

/-- The name of a scope of stages. -/
def StageScope.name : StageScope → String
  | ci => "ci"
  | preflight => "preflight"
  | both => "both"
  | diagnosticsOnly => "diagnostics_only"

namespace RunScope

/-- The scopes of runs with their names. -/
def names : List (String × RunScope) :=
  [("ci", .ci), ("preflight", .preflight), ("diagnostics", .diagnostics)]

/-- The name of a scope of runs. -/
def name : RunScope → String
  | ci => "ci"
  | preflight => "preflight"
  | diagnostics => "diagnostics"

/-- Whether a run stops at the first stage that fails. -/
def isGate : RunScope → Bool
  | ci | preflight => true
  | diagnostics => false

end RunScope

/-- A step of the pipeline. -/
structure Stage where
  id : String
  command : String
  args : List String := []
  kind : StageKind := .other
  mode : StageMode := .both
  scope : StageScope := .both
  /-- The configuration unit that the stage depends on; blank means none. -/
  unit : String := ""
  /-- Globs of the files that the stage may be narrowed to. -/
  files : List String := []
  /-- Arguments that are added when the stage looks at the whole tree. -/
  targets : List String := []
  /-- Globs of which one has to match a file, or else the stage is skipped. -/
  requires : List String := []
  /-- The limit of the stage in seconds. -/
  timeoutSecs : Option Nat := none
  deriving DecidableEq, Repr

namespace Stage

/-- Whether a stage takes part in a run. -/
def includedIn (stage : Stage) : RunScope → Bool
  | .ci => stage.mode != .diagnosticsOnly && (stage.scope == .ci || stage.scope == .both)
  | .preflight =>
    stage.mode != .diagnosticsOnly && (stage.scope == .preflight || stage.scope == .both)
  | .diagnostics => stage.mode != .gateOnly

/-- The limit of the stage in seconds when the project has this one. -/
def limitSecs (stage : Stage) (default : Nat) : Nat := stage.timeoutSecs.getD default

/-- Whether the stage depends on a configuration unit. -/
def hasUnit (stage : Stage) : Bool := ! Text.isBlankString stage.unit

/-- The stage as a record. -/
def toJson (stage : Stage) : Json := .obj [
  ("id", .str stage.id), ("command", .str stage.command), ("args", .strs stage.args),
  ("kind", .str stage.kind.name), ("mode", .str stage.mode.name),
  ("scope", .str stage.scope.name), ("unit", .str stage.unit), ("files", .strs stage.files),
  ("targets", .strs stage.targets), ("requires", .strs stage.requires),
  ("timeout_secs", Json.opt .nat stage.timeoutSecs)]

/-- Read a stage. -/
def ofJson? (dialect : Json.Dialect) (json : Json) : Option Stage := do
  let strings := Json.orElse [] (Json.list? Json.string?)
  match ← Json.fields? dialect ["id", "command", "args", "kind", "mode", "scope", "unit", "files",
    "targets", "requires", "timeout_secs"] json with
  | [id, command, args, kind, mode, scope, unit, files, targets, requires, timeoutSecs] =>
    some {
      id := ← Json.required Json.string? id
      command := ← Json.required Json.string? command
      args := ← strings args
      kind := ← Json.orElse .other (Json.choice? dialect StageKind.names) kind
      mode := ← Json.orElse .both (Json.choice? dialect StageMode.names) mode
      scope := ← Json.orElse .both (Json.choice? dialect StageScope.names) scope
      unit := ← Json.orElse "" Json.string? unit
      files := ← strings files
      targets := ← strings targets
      requires := ← strings requires
      timeoutSecs := ← Json.orElse none (Json.nullable? Json.nat?) timeoutSecs }
  | _ => none

end Stage

end QualityGate
