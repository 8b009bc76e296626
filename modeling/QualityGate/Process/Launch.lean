import QualityGate.Port.Basic
import QualityGate.Shell.Evaluation

/-!
# Processes

A process is a program that is started in a directory and observed until it ends or its time is up.
Both its output streams are captured to their ends, so a process counts as running as long as
anything that it has started may still write.

A process without any time is ended before it has done anything.
-/

namespace QualityGate.Process

open QualityGate.Shell

/-- The error of a process that cannot be started. -/
def spawnError (command : String) (cause : String) : PortError :=
  ⟨s!"failed to spawn '{command}'", [cause]⟩

/-- The directory that a process starts in, or why it cannot be started. -/
def start (disk : Disk) (invocation : Invocation) : Except PortError Location := do
  let command := invocation.command
  let fail (error : FileError) : Except PortError Location :=
    .error (spawnError command error.message)
  if Text.isBlankString command then
    .error ⟨s!"stage {invocation.stageId} has an empty command", []⟩
  else if (command :: invocation.args).any (·.contains '\x00') then
    .error (spawnError command "nul byte found in provided data")
  else match disk.find invocation.cwd with
    | .error error => fail error
    | .ok (directory, .directory) =>
      if (found? command).isSome then return directory
      else
        if command.contains '/' then
          match disk.find (joinPath invocation.cwd command) with
          | .error error => fail error
          | .ok _ => fail .permissionDenied
        else fail .notFound
    | .ok _ => fail .notDirectory

/-- What is captured of the errors of a process that was ended after some time. -/
def endedErrors (limitMs : Nat) (errors : String) : String :=
  let ended := if errors.isEmpty || errors.endsWith "\n" then errors else errors ++ "\n"
  s!"{ended}killed after {limitMs}ms"

/-- The result of a process, and the disk as the process leaves it. -/
def run (disk : Disk) (now : Time.Instant) (invocation : Invocation) :
    Except PortError (ProcessResult × Disk) := do
  let directory ← start disk invocation
  let limitMs := invocation.limitMs
  let begun : State :=
    { disk := disk, now := now, directory := "/" ++ "/".intercalate directory, limitMs := limitMs }
  let run := evaluate evaluationLimit
  let process := launch run (invocation.args.length + 2) invocation.command invocation.args
  let (ended, after) := if limitMs = 0 then (.error .timedOut, begun) else process.run.run begun
  let halt : Halt := match ended with
    | .error halt | .ok (some halt) => halt
    | .ok none => .exited 0
  let passedMs := max after.elapsedMs after.backgroundMs
  let halt := if limitMs ≤ passedMs then .timedOut else halt
  let termination : Termination := match halt with
    | .exited code | .returned code => .exited code
    | .signaled signal => .signaled (some signal)
    | .timedOut => .timedOut limitMs
    | .broken _ | .continued _ => .exited 0
  let exitCode : Int := match termination with
    | .exited code => code
    | _ => -1
  let output := Text.stringLossy (joined (after.captured.getLast?.getD []))
  let errors := Text.stringLossy (joined after.errors)
  return ({
    stageId := invocation.stageId
    exitCode := exitCode
    termination := termination
    stdout := output
    stderr := if termination matches .timedOut _ then endedErrors limitMs errors else errors
    durationMs := min limitMs passedMs }, after.disk)

end QualityGate.Process
