import QualityGate.Manifest.Reason

/-!
# Outcomes of processes

A process exits with a code, is ended by a signal, or is killed when its time is up.  Only exit code
zero is a success.  A stage can also fail without a process: when none could be started, and when
the configuration unit that it depends on has drifted.
-/

namespace QualityGate

/-- How a process ended. -/
inductive Termination where
  | exited (code : Int)
  /-- Ended by a signal, whose number may be unknown. -/
  | signaled (signal : Option Int)
  /-- Killed after so many milliseconds. -/
  | timedOut (limitMs : Nat)
  deriving DecidableEq, Repr

/-- What one process did. -/
structure ProcessResult where
  stageId : String
  /-- The exit code, or -1 when there is none. -/
  exitCode : Int
  termination : Termination
  stdout : String
  stderr : String
  durationMs : Nat
  deriving DecidableEq, Repr

/-- Why a stage failed. -/
inductive Failure where
  | exitCode (code : Int)
  | signal (signal : Option Int)
  | timeout (limitMs : Nat)
  /-- No process could be started. -/
  | spawnFailed (error : String)
  /-- The configuration unit of the stage has drifted. -/
  | drift (unit : String) (reasons : List DriftReason)
  deriving DecidableEq, Repr

namespace Termination

/-- The termination as a record. -/
def toJson : Termination → Json
  | exited code => .obj [("kind", .str "exited"), ("code", .int code)]
  | signaled signal => .obj [("kind", .str "signaled"), ("signal", Json.opt .int signal)]
  | timedOut limitMs => .obj [("kind", .str "timed_out"), ("limit_ms", .nat limitMs)]

/-- Read the only field of a record. -/
def field? (name : String) (read : Option Json → Option α) (json : Json) : Option α := do
  match ← Json.fields? .json [name] json with
  | [a] => read a
  | _ => none

/-- Read a signal, which may be left out. -/
def signal? : Option Json → Option (Option Int) := Json.orElse none (Json.nullable? Json.int32?)

/-- Read a termination. -/
def ofJson? (json : Json) : Option Termination := do
  let (kind, fields) ← Json.tagged? "kind" json
  match kind with
  | "exited" => (field? "code" (Json.required Json.int32?) fields).map exited
  | "signaled" => (field? "signal" signal? fields).map signaled
  | "timed_out" => (field? "limit_ms" (Json.required Json.nat?) fields).map timedOut
  | _ => none

end Termination

namespace Failure

/-- The failure as text. -/
def text : Failure → String
  | exitCode code => s!"exited with code {code}"
  | signal (some number) => s!"terminated by signal {number}"
  | signal none => "terminated abnormally"
  | timeout limitMs => s!"timed out after {limitMs}ms"
  | spawnFailed error => s!"failed to start: {error}"
  | drift unit [] => s!"configuration unit '{unit}' drifted"
  | drift unit (first :: _) => s!"configuration unit '{unit}' drifted ({first.text})"

/-- The failure as a record. -/
def toJson : Failure → Json
  | exitCode code => .obj [("kind", .str "exit_code"), ("code", .int code)]
  | signal number => .obj [("kind", .str "signal"), ("signal", Json.opt .int number)]
  | timeout limitMs => .obj [("kind", .str "timeout"), ("limit_ms", .nat limitMs)]
  | spawnFailed error => .obj [("kind", .str "spawn_failed"), ("error", .str error)]
  | drift unit reasons => .obj [("kind", .str "drift"), ("unit", .str unit),
      ("reasons", .arr (reasons.map DriftReason.toJson))]

/-- Read a unit with its reasons. -/
def drift? (json : Json) : Option Failure := do
  match ← Json.fields? .json ["unit", "reasons"] json with
  | [unit, reasons] =>
    some (.drift (← Json.required Json.string? unit)
      (← Json.required (Json.list? DriftReason.ofJson?) reasons))
  | _ => none

/-- Read a failure. -/
def ofJson? (json : Json) : Option Failure := do
  let (kind, fields) ← Json.tagged? "kind" json
  let only {α : Type} (name : String) (read : Option Json → Option α) :=
    Termination.field? name read fields
  match kind with
  | "exit_code" => (only "code" (Json.required Json.int32?)).map exitCode
  | "signal" => (only "signal" Termination.signal?).map signal
  | "timeout" => (only "limit_ms" (Json.required Json.nat?)).map timeout
  | "spawn_failed" => (only "error" (Json.required Json.string?)).map spawnFailed
  | "drift" => drift? fields
  | _ => none

end Failure

namespace ProcessResult

/-- Whether the process succeeded. -/
def passed (result : ProcessResult) : Bool := result.termination == .exited 0

/-- Why the process counts as failed, if it does. -/
def failure? (result : ProcessResult) : Option Failure :=
  match result.termination with
  | .exited code => if code = 0 then none else some (.exitCode code)
  | .signaled signal => some (.signal signal)
  | .timedOut limitMs => some (.timeout limitMs)

/-- The result as a record. -/
def toJson (result : ProcessResult) : Json := .obj [
  ("stage_id", .str result.stageId), ("exit_code", .int result.exitCode),
  ("termination", result.termination.toJson), ("stdout", .str result.stdout),
  ("stderr", .str result.stderr), ("duration_ms", .nat result.durationMs)]

/-- Read a result. -/
def ofJson? (json : Json) : Option ProcessResult := do
  match ← Json.fields? .json
    ["stage_id", "exit_code", "termination", "stdout", "stderr", "duration_ms"] json with
  | [stageId, exitCode, termination, stdout, stderr, durationMs] =>
    some {
      stageId := ← Json.required Json.string? stageId
      exitCode := ← Json.required Json.int32? exitCode
      termination := ← Json.required Termination.ofJson? termination
      stdout := ← Json.required Json.string? stdout
      stderr := ← Json.required Json.string? stderr
      durationMs := ← Json.required Json.nat? durationMs }
  | _ => none

end ProcessResult

end QualityGate
