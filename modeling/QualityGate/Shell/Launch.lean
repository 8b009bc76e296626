import QualityGate.Shell.Redirection
import QualityGate.Shell.Signal

/-!
# Programs that run commands

Some programs run others: a shell runs a script, and a few programs run a command with other
variables, in less time, or with arguments from their input.
-/

namespace QualityGate.Shell

open ShellM

/-- Run what is set to be run for a reason, once; the answer is whether anything is set. -/
def runTrap (run : Runner) (reason : String) : ShellM Bool := do
  match (← get).traps.lookup reason with
  | none => return false
  | some script =>
    modify fun state => { state with traps := state.traps.filter (·.1 != reason) }
    runText run script
    return true

/-- The options of a shell as letters, and its other arguments. -/
def shellOptions : List String → List Char × List String
  | "--" :: rest => ([], rest)
  | argument :: rest =>
    match argument.toList with
    | '-' :: c :: more =>
      let (letters, others) := shellOptions rest
      (c :: more ++ letters, others)
    | _ => ([], argument :: rest)
  | [] => ([], [])

/-- The letters of the options that a shell knows. -/
def knownOptions : List Char := "aefnuvxIimsVEbC".toList

/-- A shell of its own with a script and arguments; the answer is how it ends. -/
def nested (run : Runner) (options : List Char) (name : String) (arguments : List String)
    (script : String) : ShellM Halt := do
  let before ← get
  set { before with
    name := name
    arguments := arguments
    line := 1
    functions := []
    bindings := before.bindings.filter (before.exported.contains ·.1)
    readOnly := []
    localValues := []
    loops := 0
    traps := []
    status := 0
    stopsOnFailure := options.contains 'e'
    stopsOnUnset := options.contains 'u'
    showsCommands := options.contains 'x'
    process := before.process + 1 }
  let result ← attempt do
    let ended ← attempt (runText run script)
    let code ← match ended with
      | .ok _ => pure (← get).status
      | .error (.exited code) | .error (.returned code) => pure code
      | .error (.broken _) | .error (.continued _) => pure 0
      | .error halt => throw halt
    setStatus code
    let _ ← runTrap run "EXIT"
    return code
  modify before.regained
  match result with
  | .ok code | .error (.returned code) => return .exited code
  | .error halt => return halt

/-- Run a shell with these arguments. -/
def runShell (run : Runner) (name : String) (arguments : List String) : ShellM Halt := do
  let (letters, operands) := shellOptions arguments
  let complain (text : String) : ShellM Halt := do
    complain s!"{name}: 0: {text}"
    return .exited 2
  match letters.find? fun c => c != 'c' && ! knownOptions.contains c with
  | some c => complain ("Illegal option -" ++ String.ofList [c])
  | none =>
    if letters.contains 'c' then
      match operands with
      | script :: called :: arguments => nested run letters called arguments script
      | [script] => nested run letters name [] script
      | [] => complain "-c requires an argument"
    else match operands with
      | path :: arguments =>
        if letters.contains 's' then do
          nested run letters name operands (Text.stringLossy (← takeInput))
        else do
          match (← get).disk.read (← located path) with
          | .ok script => nested run letters path arguments (Text.stringLossy script)
          | .error error => complain s!"cannot open {path}: {openingNotice error}"
      | [] => do nested run letters name [] (Text.stringLossy (← takeInput))

/-- A program that runs a command. -/
inductive Launcher where
  | shell
  /-- With other variables. -/
  | environment
  /-- For some time at most. -/
  | timed
  /-- With arguments from the input. -/
  | supplied
  /-- As it would be run anyway. -/
  | plain
  deriving DecidableEq, Repr

/-- The launchers by name. -/
def Launcher.named : List (String × Launcher) := [("sh", .shell), ("dash", .shell), ("bash", .shell),
  ("env", .environment), ("timeout", .timed), ("xargs", .supplied), ("nohup", .plain),
  ("nice", .plain), ("setsid", .plain)]

/-- A program as the shell finds it. -/
inductive Found where
  | program (program : Program)
  | launcher (launcher : Launcher)

/-- The program with a name, or at a path. -/
def found? (name : String) : Option Found :=
  let base := (Program.directories.findSome? fun directory =>
    (Text.stripPrefix? directory.toList name.toList).map String.ofList).getD name
  match Launcher.named.lookup base with
  | some launcher => some (.launcher launcher)
  | none => (Program.named.lookup base).map .program

/-- The assignments in front of a command. -/
def leadingAssignments : List String → List (String × String) × List String
  | [] => ([], [])
  | argument :: rest =>
    match Text.cutAt? ['='] argument.toList with
    | some (name, value) =>
      let (assignments, command) := leadingAssignments rest
      ((String.ofList name, String.ofList value) :: assignments, command)
    | none => ([], argument :: rest)

/-- Set variables that other programs get, too. -/
def exportAll (assignments : List (String × String)) : ShellM Unit :=
  assignments.forM fun (name, value) => do
    setVariable name value
    modify fun state => { state with exported := name :: state.exported }

/-- The number in an option such as `-n 2` or `-n2`, or zero, and the other arguments. -/
def leadingCount : List String → Nat × List String
  | "-n" :: count :: rest => ((digits? count).getD 0, rest)
  | argument :: rest =>
    match argument.toList with
    | '-' :: 'n' :: count => ((digits? (String.ofList count)).getD 0, rest)
    | _ => (0, argument :: rest)
  | [] => (0, [])

/-- The parts of a list that have so many members. -/
def chunks (size : Nat) : Nat → List α → List (List α)
  | 0, _ | _, [] => []
  | fuel + 1, items => items.take size :: chunks size fuel (items.drop size)

/-- A step with less time; the answer is nothing when it takes longer. -/
def withinTime (ms : Nat) (step : ShellM Halt) : ShellM (Option Halt) := do
  let before ← get
  let limit := before.elapsedMs + ms
  if ms = 0 || before.limitMs ≤ limit then return some (← step)
  set { before with limitMs := limit }
  let result ← attempt step
  modify fun state => { state with limitMs := before.limitMs }
  match result with
  | .ok .timedOut | .error .timedOut => return none
  | .ok halt => return some halt
  | .error halt => throw halt

/-- Run a program; the answer is how it ends, or nothing where there is no such program. -/
def launch (run : Runner) : Nat → String → List String → ShellM (Option Halt)
  | 0, _, _ => return none
  | fuel + 1, name, arguments => do
    let inner (command : List String) : ShellM Halt := do
      match command with
      | [] => return .exited 0
      | program :: arguments =>
        match ← launch run fuel program arguments with
        | some halt => return halt
        | none =>
          complain s!"{name}: '{program}': No such file or directory"
          return .exited 127
    match found? name with
    | none => return none
    | some (.program program) => return some (.exited (← program arguments))
    | some (.launcher .shell) => return some (← runShell run name arguments)
    | some (.launcher .plain) => return some (← inner arguments)
    | some (.launcher .environment) =>
      let (assignments, command) := leadingAssignments (arguments.filter (· != "-i"))
      let before ← get
      if arguments.head? == some "-i" then
        modify fun state => { state with exported := [] }
      exportAll assignments
      if command.isEmpty then
        let state ← get
        for (name, value) in state.bindings.reverse do
          if state.exported.contains name then line s!"{name}={value}"
      let halt ← inner command
      modify fun state =>
        { state with bindings := before.bindings, exported := before.exported }
      return some halt
    | some (.launcher .supplied) =>
      let parts := splitParts [' ', '\t', '\n'] (Text.Utf8.decodeLossy (← takeInput))
      let words := (fieldsOf none parts).map Field.text
      let (size, command) := leadingCount arguments
      let command := if command.isEmpty then ["echo"] else command
      let groups := if size = 0 then [words] else (chunks size (words.length + 1) words)
      let mut status := 0
      for group in groups do
        match ← inner (command ++ group) with
        | .exited 0 => pure ()
        | .exited code => status := if code = 127 then 127 else 123
        | halt => throw halt
      return some (.exited status)
    | some (.launcher .timed) =>
      match arguments with
      | limit :: command =>
        match Program.milliseconds? limit with
        | some ms => return some ((← withinTime ms (inner command)).getD (.exited 124))
        | none =>
          complain s!"timeout: invalid time interval '{limit}'"
          complain "Try 'timeout --help' for more information."
          return some (.exited 125)
      | [] =>
        complain "timeout: missing operand"
        complain "Try 'timeout --help' for more information."
        return some (.exited 125)

/-- Run a program that the shell has to find, whose end becomes the status. -/
def runProgram (run : Runner) (name : String) (arguments : List String) : ShellM Unit := do
  match ← launch run (arguments.length + 2) name arguments with
  | some (.exited code) | some (.returned code) => setStatus code
  | some (.signaled signal) =>
    let notice := signalNotice signal
    if ! notice.isEmpty then complain notice
    setStatus (128 + signal)
  | some halt => throw halt
  | none =>
    if name.isEmpty then
      report ": Permission denied"
      setStatus 127
    else if name.contains '/' && ((← get).disk.find (← located name)).isOk then
      report s!"{name}: Permission denied"
      setStatus 126
    else
      report s!"{name}: not found"
      setStatus 127

end QualityGate.Shell
