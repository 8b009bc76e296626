import QualityGate.Disk.Operations
import QualityGate.Shell.Syntax

/-!
# The state of a shell

A shell has a directory, variables and streams, and it changes a disk.  Time passes only where a
command waits, so that it can be said which output was there when a limit is reached.

The output of a command may be *captured*, to become the input of another command or a part of a
word.  Captures are nested; capture 0 is the output of the shell itself.
-/

namespace QualityGate.Shell

open QualityGate.Text (Bytes)

/-- Where what is written to a stream goes. -/
inductive Sink where
  | capture (depth : Nat)
  | errors
  | nowhere
  /-- The end of a file. -/
  | file (path : String)
  deriving DecidableEq, Repr

/-- Why a script does not go on. -/
inductive Halt where
  | exited (code : Nat)
  | signaled (signal : Nat)
  | timedOut
  /-- Out of so many loops. -/
  | broken (levels : Nat)
  /-- To the next round of the loop so many levels up. -/
  | continued (levels : Nat)
  /-- Out of a function. -/
  | returned (code : Nat)
  deriving DecidableEq, Repr

/-- The state of a shell. -/
structure State where
  disk : Disk
  /-- The instant at which the first shell was started. -/
  now : Time.Instant
  /-- The path of the directory that the shell is in. -/
  directory : String
  /-- The name that the shell calls itself. -/
  name : String := "sh"
  arguments : List String := []
  /-- The number of the line that the last command was on. -/
  line : Nat := 1
  /-- The variables with their values. -/
  bindings : List (String × String) := [("HOME", "/root")]
  /-- The variables that a new shell gets, too. -/
  exported : List String := ["HOME"]
  readOnly : List String := []
  /-- The variables of the function that is called, with their values outside. -/
  localValues : List (String × Option String) := []
  functions : List (String × Script) := []
  /-- The code that the last command ended with. -/
  status : Nat := 0
  /-- The input that has not been read. -/
  input : Bytes := []
  /-- The pieces that were written to the captures, the latest first; the innermost capture is the
  first. -/
  captured : List (List Bytes) := [[]]
  /-- The pieces that were written as errors, the latest first. -/
  errors : List Bytes := []
  outputSink : Sink := .capture 0
  errorSink : Sink := .errors
  /-- The number of the process. -/
  process : Nat := 4001
  elapsedMs : Nat := 0
  limitMs : Nat
  /-- The time at which the last command in the background ends. -/
  backgroundMs : Nat := 0
  /-- The code that the last command in the background ended with. -/
  backgroundStatus : Nat := 0
  /-- The number of loops around the command. -/
  loops : Nat := 0
  /-- A command that fails ends the script. -/
  stopsOnFailure : Bool := false
  /-- A parameter that is not set ends the script. -/
  stopsOnUnset : Bool := false
  /-- Commands are shown before they are run. -/
  showsCommands : Bool := false
  /-- What is run before the script ends for a reason; nothing to run means that a signal is
  ignored. -/
  traps : List (String × String) := []

/-- A step of a shell. -/
abbrev ShellM : Type → Type := ExceptT Halt (StateM State)

/-- The instant that has come by now. -/
def State.moment (state : State) : Time.Instant := state.now.plusMillis state.elapsedMs

/-- Write to a sink. -/
def State.write (state : State) (sink : Sink) (bytes : Bytes) : State :=
  match sink with
  | .capture depth =>
    let place := state.captured.length - 1 - depth
    { state with captured := state.captured.modify place (bytes :: ·) }
  | .errors => { state with errors := bytes :: state.errors }
  | .nowhere => state
  | .file path =>
    match state.disk.read path with
    | .ok content =>
      match state.disk.write state.moment path (content ++ bytes) with
      | .ok disk => { state with disk := disk }
      | .error _ => state
    | .error _ => state

/-- A shell after another one that it has started: what was written and read and what was done to
the disk stays, and so do the time that has passed and the code at the end. -/
def State.regained (before after : State) : State :=
  { before with
    disk := after.disk
    status := after.status
    input := after.input
    captured := after.captured
    errors := after.errors
    elapsedMs := after.elapsedMs
    backgroundMs := after.backgroundMs
    backgroundStatus := after.backgroundStatus }

/-- Pieces, the latest first, as one text. -/
def joined (pieces : List Bytes) : Bytes := pieces.reverse.flatten

namespace ShellM

/-- Write bytes to the output. -/
def put (bytes : Bytes) : ShellM Unit := modify fun state => state.write state.outputSink bytes

/-- Write a line to the output. -/
def line (text : String) : ShellM Unit := put (Text.bytesOf (text ++ "\n"))

/-- Write a line to the errors. -/
def complain (text : String) : ShellM Unit :=
  modify fun state => state.write state.errorSink (Text.bytesOf (text ++ "\n"))

/-- How the shell begins its messages, for a command or for itself. -/
def heading : ShellM String := do
  let state ← get
  return s!"{state.name}: {state.line}: "

/-- A message of the shell about itself. -/
def report (text : String) : ShellM Unit := do complain ((← heading) ++ text)

/-- A mistake that ends the script. -/
def stop (text : String) : ShellM α := do
  report text
  throw (.exited 2)

/-- Set the code that the last command ended with. -/
def setStatus (status : Nat) : ShellM Unit := modify fun state => { state with status := status }

/-- A path as seen from the directory of the shell. -/
def located (path : String) : ShellM String := do return joinPath (← get).directory path

/-- Read the whole input. -/
def takeInput : ShellM Bytes := do
  let input := (← get).input
  modify fun state => { state with input := [] }
  return input

/-- Change the disk; an error changes nothing. -/
def changeDisk (change : Disk → Time.Instant → Except FileError Disk) :
    ShellM (Option FileError) := do
  let state ← get
  match change state.disk state.moment with
  | .ok disk =>
    set { state with disk := disk }
    return none
  | .error error => return some error

/-- Let time pass. -/
def wait (ms : Nat) : ShellM Unit := do
  let state ← get
  if state.limitMs ≤ state.elapsedMs + ms then
    set { state with elapsedMs := state.limitMs }
    throw .timedOut
  else set { state with elapsedMs := state.elapsedMs + ms }

/-- The value of a variable; one that is not set is empty. -/
def variableValue (name : String) : ShellM String := do
  return ((← get).bindings.lookup name).getD ""

/-- Set a variable, unless it must not be set. -/
def setVariable (name value : String) : ShellM Unit := do
  let state ← get
  if state.readOnly.contains name then stop s!"{name}: is read only"
  set { state with bindings := (name, value) :: state.bindings.filter (·.1 != name) }

/-- Take away a variable. -/
def unsetVariable (name : String) : ShellM Unit :=
  modify fun state => { state with bindings := state.bindings.filter (·.1 != name) }

/-- The result of a step, of which an end is one. -/
def attempt (step : ShellM α) : ShellM (Except Halt α) := ExceptT.lift step.run

/-- What a step writes to the output, with the step's own end. -/
def capturing (step : ShellM α) : ShellM (Bytes × Except Halt α) := do
  let before ← get
  set { before with
    captured := [] :: before.captured
    outputSink := .capture before.captured.length }
  let result ← attempt step
  let after ← get
  set { after with captured := after.captured.tail, outputSink := before.outputSink }
  return (joined (after.captured.head?.getD []), result)

/-- A step after which the shell is as it was. -/
def isolated (step : ShellM Unit) : ShellM Unit := do
  let before ← get
  let result ← attempt step
  modify before.regained
  match result with
  | .error (.exited code) | .error (.returned code) => setStatus code
  | .error .timedOut => throw .timedOut
  | .error (.signaled signal) => throw (.signaled signal)
  | _ => return

end ShellM

end QualityGate.Shell
