import QualityGate.Shell.Launch

/-!
# Commands of the shell

Commands that change the shell are built into it.  A few more are built in that could be programs.

A mistake in a command that changes the shell ends the script.
-/

namespace QualityGate.Shell

open QualityGate.Text (Bytes)
open ShellM

/-- The number in the first argument of a command, or another one if there is no argument. -/
def numberOf (command : String) (other : Nat) : List String → ShellM Nat
  | [] => return other
  | text :: _ =>
    match digits? text with
    | some number => return number
    | none => stop s!"{command}: Illegal number: {text}"

/-- The code in the first argument of a command, or the last one. -/
def codeOf (command : String) (arguments : List String) : ShellM Nat := do
  return (← numberOf command (← get).status arguments) % 256

/-- The number of loops that a command is about, of those that are around it. -/
def levelsOf (command : String) (arguments : List String) : ShellM Nat := do
  match ← numberOf command 1 arguments with
  | 0 => stop s!"{command}: Illegal number: 0"
  | levels => return min levels (← get).loops

/-- The names and values in arguments such as `name=value`; a name alone has no value. -/
def definitions (command : String) (arguments : List String) :
    ShellM (List (String × Option String)) :=
  arguments.mapM fun argument => do
    let (name, value) := match Text.cutAt? ['='] argument.toList with
      | some (name, value) => (name, some (String.ofList value))
      | none => (argument.toList, none)
    if ! isName name then stop s!"{command}: {String.ofList name}: bad variable name"
    return (String.ofList name, value)

/-- Set the variables that have a value. -/
def define (command : String) (arguments : List String) : ShellM (List String) := do
  let definitions ← definitions command arguments
  for (name, value) in definitions do
    value.forM (setVariable name)
  return definitions.map (·.1)

/-- Let variables be those of the function that is called. -/
def declareLocal (arguments : List String) : ShellM Unit := do
  let names := (← definitions "local" arguments).map (·.1)
  modify fun state => { state with
    localValues := names.map (fun name => (name, state.bindings.lookup name)) ++ state.localValues }
  let _ ← define "local" arguments

/-- The options of the shell by their letters, with their names. -/
def optionNames : List (Char × String) := [('a', "allexport"), ('e', "errexit"), ('f', "noglob"),
  ('n', "noexec"), ('u', "nounset"), ('v', "verbose"), ('x', "xtrace"), ('I', "ignoreeof"),
  ('i', "interactive"), ('m', "monitor"), ('s', "stdin"), ('V', "vi"), ('E', "emacs"),
  ('b', "notify"), ('C', "noclobber")]

/-- Turn an option of the shell on or off. -/
def setOption (value : Bool) (letter : Char) : ShellM Unit := do
  if (optionNames.lookup letter).isNone then
    stop ("set: Illegal option -" ++ String.ofList [letter])
  modify fun state => match letter with
    | 'e' => { state with stopsOnFailure := value }
    | 'u' => { state with stopsOnUnset := value }
    | 'x' => { state with showsCommands := value }
    | _ => state

/-- Turn an option of the shell on or off by its name. -/
def setNamedOption (value : Bool) (name : String) : ShellM Unit := do
  match optionNames.find? (·.2 == name) with
  | some (letter, _) => setOption value letter
  | none => stop s!"set: Illegal option -o {name}"

/-- Turn options of the shell on or off by their letters and, where `o` is among them, by a name. -/
def setLetters (value : Bool) (letters : List Char) (name : Option String) : ShellM Unit := do
  (letters.filter (· != 'o')).forM (setOption value)
  if letters.contains 'o' then name.forM (setNamedOption value)

/-- Set options and arguments of the shell. -/
def setOptions : List String → ShellM Unit
  | [] => return
  | "--" :: rest => modify fun state => { state with arguments := rest }
  | [option] => do
    match option.toList with
    | '-' :: letters => setLetters true letters none
    | '+' :: letters => setLetters false letters none
    | _ => modify fun state => { state with arguments := [option] }
  | option :: name :: rest => do
    match option.toList with
    | sign :: letters =>
      if sign == '-' || sign == '+' then
        setLetters (sign == '-') letters (some name)
        if letters.contains 'o' then setOptions rest else setOptions (name :: rest)
      else modify fun state => { state with arguments := option :: name :: rest }
    | [] => modify fun state => { state with arguments := option :: name :: rest }

/-- Forget the first arguments. -/
def shift (arguments : List String) : ShellM Unit := do
  let count ← numberOf "shift" 1 arguments
  if (← get).arguments.length < count then stop "shift: can't shift that many"
  modify fun state => { state with arguments := state.arguments.drop count }

/-- Go to a directory. -/
def changeDirectory (arguments : List String) : ShellM Nat := do
  let before := (← get).directory
  let path ← match arguments with
    | [] => variableValue "HOME"
    | "-" :: _ => variableValue "OLDPWD"
    | path :: _ => pure path
  match (← get).disk.find (← located path) with
  | .ok (location, .directory) =>
    setVariable "OLDPWD" before
    let directory := "/" ++ "/".intercalate location
    modify fun state => { state with directory := directory }
    if arguments.head? == some "-" then line directory
    return 0
  | _ =>
    report s!"cd: can't cd to {path}"
    return 2

/-- The line that is read, of which a backslash may join several. -/
def inputLine (raw : Bool) : List UInt8 → Bytes × Bool × Bytes
  | [] => ([], false, [])
  | 92 :: 10 :: rest =>
    if raw then ([92], true, rest) else inputLine raw rest
  | 92 :: b :: rest =>
    let (front, ended, rest) := inputLine raw rest
    (if raw then 92 :: b :: front else b :: front, ended, rest)
  | b :: rest =>
    if b = Program.lineFeed then ([], true, rest)
    else
      let (front, ended, rest) := inputLine raw rest
      (b :: front, ended, rest)

/-- Read a line of the input into variables, of which the last one gets all that is left. -/
def readLine (arguments : List String) : ShellM Nat := do
  let (options, names) := shellOptions arguments
  let separators ← separators
  let (line, ended, rest) := inputLine (options.contains 'r') (← get).input
  setInput rest
  let isBlank := fun (c : Char) => separators.contains c && Text.isBlank c
  let rec assign (text : List Char) : List String → ShellM Unit
    | [] => return
    | [name] => setVariable name (String.ofList (Text.dropWhileEnd isBlank text))
    | name :: names => do
      setVariable name (String.ofList (text.takeWhile (! separators.contains ·)))
      let rest := (text.dropWhile (! separators.contains ·)).dropWhile isBlank
      let rest := match rest with
        | c :: more => if separators.contains c then more.dropWhile isBlank else rest
        | [] => []
      assign rest names
  assign ((Text.Utf8.decodeLossy line).dropWhile isBlank) names
  return if ended then 0 else 1

/-- The reason for which a trap is set. -/
def trapReason? (text : String) : Option String :=
  if text = "EXIT" then some "EXIT"
  else (signal? text).map fun signal => if signal = 0 then "EXIT" else signalName signal

/-- Set what is run for some reasons. -/
def setTraps (arguments : List String) : ShellM Nat := do
  let (script, reasons) := match arguments with
    | "--" :: script :: reasons | script :: reasons => (script, reasons)
    | [] => ("-", [])
  let (script, reasons) := if reasons.isEmpty then ("-", [script]) else (script, reasons)
  Program.forAll (if arguments.isEmpty then [] else reasons) fun reason => do
    match trapReason? reason with
    | some reason =>
      modify fun state => { state with
        traps := (if script = "-" then [] else [(reason, script)])
          ++ state.traps.filter (·.1 != reason) }
      return true
    | none =>
      report s!"trap: {reason}: bad trap"
      return false

/-- Send a signal to a process of this shell. -/
def kill (run : Runner) (signal : Nat) (process : String) : ShellM Bool := do
  let state ← get
  if process = toString state.process || process = "0" then
    let reason := signalName signal
    match state.traps.lookup reason with
    | some "" => return true
    | _ =>
      if signal != 9 && (← runTrap run reason) then return true
      match dispositionOf signal with
      | .ignored => return true
      | .stops => throw .timedOut
      | .ends => throw (.signaled signal)
  else if state.parameter? "!" == some process then
    modify fun state => { state with backgroundMs := 0, backgroundStatus := 128 + signal }
    return true
  else
    match (digits? (String.ofList (process.toList.dropWhile (· == '-')))) with
    | some _ =>
      report "kill: No such process\n"
      return false
    | none => stop s!"kill: Illegal number: {process}"

/-- Send a signal to processes. -/
def killAll (run : Runner) (arguments : List String) : ShellM Nat := do
  let (name, processes) := match arguments with
    | "-s" :: name :: rest => (name, rest)
    | "--" :: rest => ("TERM", rest)
    | first :: rest =>
      match first.toList with
      | '-' :: name => (String.ofList name, rest)
      | _ => ("TERM", first :: rest)
    | [] => ("TERM", [])
  match signal? name with
  | none =>
    if (arguments.head?.getD "") = "-s" then stop s!"kill: invalid signal number or name: {name}"
    else stop ("kill: Illegal option -" ++ String.ofList (name.toList.take 1))
  | some signal =>
    if processes.isEmpty then
      stop ("kill: Usage: kill [-s sigspec | -signum | -sigspec] [pid | job]... or\n"
        ++ "kill -l [exitstatus]")
    else Program.forAll processes (kill run signal)

/-- The commands that are built in. -/
def builtInNames : List String := [".", ":", "[", "alias", "bg", "break", "cd", "command",
  "continue", "echo", "eval", "exec", "exit", "export", "false", "fg", "getopts", "hash", "jobs",
  "kill", "local", "printf", "pwd", "read", "readonly", "return", "set", "shift", "test", "times",
  "trap", "true", "type", "ulimit", "umask", "unalias", "unset", "wait"]

/-- The words of the language of scripts. -/
def keywordNames : List String := ["!", "case", "do", "done", "elif", "else", "esac", "fi", "for",
  "if", "in", "then", "until", "while", "\x7b", "\x7d"]

/-- What a name stands for, in a sentence if wanted. -/
def whatIs? (inWords : Bool) (name : String) : ShellM (Option String) := do
  let say (place description : String) : Option String :=
    some (if inWords then s!"{name} is {description}" else place)
  if keywordNames.contains name then return say name "a shell keyword"
  else if ((← get).functions.lookup name).isSome then return say name "a shell function"
  else if builtInNames.contains name then
    let isSpecial := [".", ":", "break", "continue", "eval", "exec", "exit", "export", "readonly",
      "return", "set", "shift", "times", "trap", "unset"].contains name
    return say name (if isSpecial then "a special shell builtin" else "a shell builtin")
  else
    let place := if name.contains '/' then name else "/usr/bin/" ++ name
    return (found? name).bind fun _ => say place place

/-- Say what some names stand for. -/
def describe (inWords : Bool) (names : List String) : ShellM Nat := do
  let known ← names.mapM fun name => do
    match ← whatIs? inWords name with
    | some text =>
      line text
      return true
    | none =>
      if inWords then line s!"{name}: not found"
      return false
  return if known.all id then 0 else 127

/-- Run the script in a file. -/
def source (run : Runner) : List String → ShellM Unit
  | [] => return
  | path :: _ => do
    if ! path.contains '/' then stop s!".: {path}: not found"
    match (← get).disk.read (← located path) with
    | .error error => stop s!".: cannot open {path}: {openingNotice error}"
    | .ok script =>
      match ← attempt (runText run (Text.stringLossy script)) with
      | .ok _ => return
      | .error (.returned code) => setStatus code
      | .error halt => throw halt

/-- Become a program. -/
def execute (run : Runner) : List String → ShellM Unit
  | [] => setStatus 0
  | program :: arguments => do
    match ← launch run (arguments.length + 2) program arguments with
    | some halt => throw halt
    | none =>
      report s!"exec: {program}: not found"
      throw (.exited 127)

/-- Wait for what runs in the background. -/
def waitFor (arguments : List String) : ShellM Nat := do
  let state ← get
  match arguments with
  | [] =>
    wait (state.backgroundMs - state.elapsedMs)
    return 0
  | process :: _ =>
    if state.parameter? "!" == some process then
      wait (state.backgroundMs - state.elapsedMs)
      return (← get).backgroundStatus
    else if (digits? process).isSome then return 127
    else
      report s!"wait: No such job: {process}"
      return 2

/-- The built-in command with a name. -/
def builtIn? (run : Runner) (name : String) (arguments : List String) :
    Option (ShellM Unit) :=
  let status (step : ShellM Nat) : Option (ShellM Unit) := some do setStatus (← step)
  let done (step : ShellM Unit) : Option (ShellM Unit) := status do
    step
    return 0
  match name with
  | ":" | "true" => done (return)
  | "false" => status (return 1)
  | "exit" => some do throw (.exited (← codeOf "exit" arguments))
  | "return" => some do throw (.returned (← codeOf "return" arguments))
  | "break" => some do
    let levels ← levelsOf "break" arguments
    if levels = 0 then setStatus 0 else throw (.broken levels)
  | "continue" => some do
    let levels ← levelsOf "continue" arguments
    if levels = 0 then setStatus 0 else throw (.continued levels)
  | "export" => done do
    let names ← define "export" (arguments.filter (· != "-p"))
    modify fun state => { state with exported := names ++ state.exported }
  | "readonly" => done do
    let names ← define "readonly" (arguments.filter (· != "-p"))
    modify fun state => { state with readOnly := names ++ state.readOnly }
  | "local" => done (declareLocal arguments)
  | "unset" => done do
    let (letters, names) := shellOptions arguments
    for name in names do
      if letters.contains 'f' then
        modify fun state => { state with functions := state.functions.filter (·.1 != name) }
      else if (← get).readOnly.contains name then stop s!"unset: {name}: is read only"
      else unsetVariable name
  | "set" => done (setOptions arguments)
  | "shift" => done (shift arguments)
  | "cd" => status (changeDirectory arguments)
  | "pwd" => status (Program.pwd arguments)
  | "eval" => some do
    setStatus 0
    runText run (" ".intercalate arguments)
  | "." => some (source run arguments)
  | "exec" => some (execute run arguments)
  | "read" => status (readLine arguments)
  | "trap" => status (setTraps arguments)
  | "wait" => status (waitFor arguments)
  | "kill" => status (killAll run arguments)
  | "umask" => done (if arguments.isEmpty then line "0022" else return)
  | "ulimit" => done (if arguments.isEmpty then line "unlimited" else return)
  | "alias" | "unalias" | "hash" | "jobs" => done (return)
  | "type" => status (describe true arguments)
  | "command" =>
    match arguments with
    | "-v" :: names => status (describe false names)
    | "-V" :: names => status (describe true names)
    | _ => none
  | "echo" => status (Program.echo true arguments)
  | "printf" => status do Program.printf ((← heading) ++ "printf") arguments
  | "test" => status do Program.test ((← heading) ++ "test") arguments
  | "[" => status do Program.bracket ((← heading) ++ "[") arguments
  | _ => none

end QualityGate.Shell
